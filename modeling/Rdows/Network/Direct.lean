import Rdows.Client.LocalMemory
import Rdows.Network.Sequential

/-!
# The verbs without a network

What a program on a connection may think it has: a memory that is one function call away.  `Direct`
is the client's side and the server's side put next to each other.  It has no frames, no channels,
no sequence numbers, no credits and no pending operation; a verb calls the server's store, hands the
result to the client, and that is all.

## The two sides

* `Backend` is what a session keeps for its client, with the operations that a request asks for.  It
  is the session without the protocol: the store, the rate limit, the posted receives and the limit
  on reads.
* `Direct.request` is one request: the server does its part, and the client makes of the result what
  its verb says.  A server that panics is gone; the client is then given the error that the
  transport has for this call, and so is every request after it.
* `Direct.perform` lists the verbs, and `Direct.call` numbers the calls.

## When a network does the same

`Direct.Admits` is the condition under which the network does the same, which is shown in
`Rdows.Network.Transparency`.  It bounds the frames of a call, and what a read is answered with, by
the limit of the transport, and it excludes the WRITEs that are answered twice.  It is a condition
on the state that a call finds, so a program meets it or not along its run on `Direct`, where there
is no schedule to think of.

`call_regMr`, `call_rdmaRead`, `call_rdmaWrite` and the local calls say what a call that succeeds
comes to; programs over this interface are verified with them.
-/

namespace Rdows

open Rust

/-! ### The server's side -/

/-- What a session keeps for its client, apart from the protocol.  Sequence numbers, the state
machine and the pending operation are not part of it. -/
structure Backend where
  memoryStore : MemoryStore
  recvQueueDepth : UInt32
  maxOutstandingReads : UInt32
  mrRegCount : UInt32
  mrRegWindowStart : ℕ
  mrRegRateLimit : UInt32

namespace Backend

variable {α : Type}

/-- An operation of the store. -/
def onStore (x : Method MemoryStore ErrorCode α) : Method Backend ErrorCode α := fun b =>
  ((x.run b.memoryStore).1, { b with memoryStore := (x.run b.memoryStore).2 })

theorem run_onStore (x : Method MemoryStore ErrorCode α) (b : Backend) :
    (onStore x).run b
      = ((x.run b.memoryStore).1, { b with memoryStore := (x.run b.memoryStore).2 }) := rfl

/-- Start a new window of the rate limit if the old one is over, as the server does before it looks
at the count. -/
def refreshed (b : Backend) (now : ℕ) : Backend :=
  if Handler.mrRegWindow ≤ now - b.mrRegWindowStart then
    { b with mrRegCount := 0, mrRegWindowStart := now }
  else b

/-- The window of the rate limit is all that is refreshed. -/
theorem refreshed_eq (b : Backend) (now : ℕ) : ∃ count start,
    b.refreshed now = { b with mrRegCount := count, mrRegWindowStart := start } ∧
      count ≤ b.mrRegCount := by
  by_cases elapsed : Handler.mrRegWindow ≤ now - b.mrRegWindowStart
  · exact ⟨0, now, if_pos elapsed, UInt32.le_iff_toNat_le.mpr (Nat.zero_le _)⟩
  · exact ⟨_, _, if_neg elapsed, UInt32.le_refl _⟩

/-- Register a region, within the rate limit.  The attempt is counted before the store is asked, so
a refusal of the store counts too. -/
def register (now : ℕ) (draws : ℕ → UInt32) (pd : ProtectionDomain) (accessFlags : AccessFlags)
    (regionLen : UInt64) : Method Backend ErrorCode (LKey × RKey) := do
  Method.modify fun b => b.refreshed now
  let b ← Method.get
  if b.mrRegRateLimit ≤ b.mrRegCount then Method.throw .errInternal
  else do
    Method.modify fun b => { b with mrRegCount := b.mrRegCount + 1 }
    onStore (MemoryStore.register draws pd accessFlags regionLen)

theorem run_register (now : ℕ) (draws : ℕ → UInt32) (pd : ProtectionDomain)
    (accessFlags : AccessFlags) (regionLen : UInt64) (b : Backend) :
    (register now draws pd accessFlags regionLen).run b =
      if (b.refreshed now).mrRegRateLimit ≤ (b.refreshed now).mrRegCount then
        (.err .errInternal, b.refreshed now)
      else (onStore (MemoryStore.register draws pd accessFlags regionLen)).run
        { b.refreshed now with mrRegCount := (b.refreshed now).mrRegCount + 1 } := by
  rw [register, Method.run_bind_of_ok (Method.run_modify _ b),
    Method.run_bind_of_ok (Method.run_get _), Method.run_ite]
  split <;> rfl

/-- Use up a posted receive, or refuse the SEND as `ErrRnr`. -/
def receive : Method Backend ErrorCode Unit := do
  let b ← Method.get
  if b.recvQueueDepth = 0 then Method.throw .errRnr
  else Method.modify fun b => { b with recvQueueDepth := b.recvQueueDepth - 1 }

/-- Read from a region; the reads are not pipelined, so that the limit matters only if it is 0. -/
def read (rkey : RKey) (remoteVa readLen : UInt64) : Method Backend ErrorCode Bytes := do
  let b ← Method.get
  if b.maxOutstandingReads = 0 then Method.throw .errRnr
  else Method.lift (b.memoryStore.readRegion rkey remoteVa readLen)

end Backend

/-- The part of a session that is not the protocol. -/
def Session.backend (s : Session) : Backend where
  memoryStore := s.memoryStore
  recvQueueDepth := s.recvQueueDepth
  maxOutstandingReads := s.maxOutstandingReads
  mrRegCount := s.mrRegCount
  mrRegWindowStart := s.mrRegWindowStart
  mrRegRateLimit := s.mrRegRateLimit

/-- The session with another backend. -/
def Session.withBackend (s : Session) (b : Backend) : Session :=
  { s with
    memoryStore := b.memoryStore
    recvQueueDepth := b.recvQueueDepth
    maxOutstandingReads := b.maxOutstandingReads
    mrRegCount := b.mrRegCount
    mrRegWindowStart := b.mrRegWindowStart
    mrRegRateLimit := b.mrRegRateLimit }

/-! ### The client's side -/

namespace RdowsConnection

/-- A registration that was granted: the client keeps a buffer for the region, and returns a handle
with another one. -/
def granted (lkey : LKey) (rkey : RKey) (regionLen : UInt64) : Local VerbValue := do
  let localBuf ← Method.lift (zeroed regionLen.toNat)
  let handle : MemoryRegionHandle := { lkey, rkey, len := regionLen, localBuf }
  Method.modify fun c => { c with localMrs := c.localMrs.insert lkey.value handle }
  return .handle handle

/-- A deregistration that was granted: the client drops its buffer. -/
def released (lkey : LKey) : Local VerbValue := do
  Method.modify fun c => { c with localMrs := c.localMrs.erase lkey.value }
  return .unit

/-- A work request that has been served leaves one completion: what was done is delivered, or the
error is reported. -/
def completes {α : Type} (wrid : UInt64) (opcode : Opcode) (byteCount : α → UInt32)
    (deliver : α → Local VerbValue) : Except ErrorCode α → Local VerbValue
  | .ok a => do
      let value ← deliver a
      pushCqe wrid 0 opcode (byteCount a)
      return value
  | .error code => do
      pushCqe wrid code.toU16 opcode 0
      Method.throw (.protocol code)

end RdowsConnection

/-! ### Both sides -/

/-- The client's connection and the server's backend.  The connection's sequence numbers and credits
have no meaning here. -/
structure Direct where
  transport : Transport
  conn : RdowsConnection
  backend : Backend
  /-- The server is there. -/
  running : Bool
  /-- The number of frames that the network would have used; the clock and the random draws of the
  server are numbered by it. -/
  handled : ℕ
  /-- The number of calls made so far; the errors of the transport are numbered by it. -/
  calls : ℕ

namespace Direct

open RdowsConnection

variable {α : Type}

/-- The client makes of the server's result what its verb says.  The frames that the request took
are counted, because the readings of the outside are numbered by them. -/
def conclude (d : Direct) (frames : ℕ) (backend : Backend) (finish : Local VerbValue) :
    Outcome RdowsError VerbValue × Direct :=
  let out := finish.run d.conn
  (out.1, { d with conn := out.2, backend, handled := d.handled + frames })

/-- One request: the server's operation, and then the client's.  A panic of the operation takes the
server away and leaves its backend as it was. -/
def request (d : Direct) (frames : ℕ) (x : Method Backend ErrorCode α)
    (finish : Except ErrorCode α → Local VerbValue) : Outcome RdowsError VerbValue × Direct :=
  if d.running then
    match x.run d.backend with
    | (.ok a, backend) => d.conclude frames backend (finish (.ok a))
    | (.err code, backend) => d.conclude frames backend (finish (.error code))
    | (.panic _, _) => (.err (d.transport.lost d.calls), { d with running := false })
  else (.err (d.transport.lost d.calls), d)

/-- The checks before a work request: there is room for its completion, and its data is there. -/
def working (d : Direct) (gathered : Outcome RdowsError α)
    (next : α → Outcome RdowsError VerbValue × Direct) : Outcome RdowsError VerbValue × Direct :=
  if d.conn.cq.isFull then (.err (.protocol .errCqOverflow), d)
  else match gathered with
    | .ok a => next a
    | .err e => (.err e, d)
    | .panic p => (.panic p, d)

/-- What the client does alone, with or without a server. -/
def locally (d : Direct) (x : Local VerbValue) : Outcome RdowsError VerbValue × Direct :=
  let out := x.run d.conn
  (out.1, { d with conn := out.2 })

/-- The verbs. -/
def perform (readings : Readings) (d : Direct) : Verb → Outcome RdowsError VerbValue × Direct
  | .regMr accessFlags regionLen =>
      let now := readings d.handled
      d.request 1 (Backend.register now.1 now.2 d.conn.pd accessFlags regionLen) fun
        | .ok (lkey, rkey) => granted lkey rkey regionLen
        | .error code => Method.throw (.protocol code)
  | .deregMr lkey =>
      d.request 1 (Backend.onStore (MemoryStore.deregister d.conn.pd lkey)) fun
        | .ok _ => released lkey
        | .error code => Method.throw (.protocol code)
  | .postSend wrid sgList => d.working (d.conn.gatherSgData sgList) fun data =>
      d.request 2 Backend.receive
        (completes wrid .send (fun _ => UInt32.ofNat data.length) fun _ => return .unit)
  | .rdmaWrite wrid rkey remoteVa sgList => d.working (d.conn.gatherSgData sgList) fun data =>
      d.request 2 (Backend.onStore (MemoryStore.writeRegion rkey remoteVa data))
        (completes wrid .write (fun _ => (UInt64.ofNat data.length).toUInt32) fun _ => return .unit)
  | .rdmaRead wrid rkey remoteVa readLen localLkey localVa => d.working (.ok ()) fun _ =>
      d.request 1 (Backend.read rkey remoteVa readLen)
        (completes wrid .readReq (fun data => UInt32.ofNat data.length) fun data => do
          copyToLocalMr localLkey localVa.toNat data
          return .unit)
  | .atomicCas wrid rkey remoteVa compare swap => d.working (.ok ()) fun _ =>
      d.request 1 (Backend.onStore (MemoryStore.atomicOp rkey remoteVa atomicTypeCas compare swap))
        (completes wrid .atomicReq (fun _ => 8) fun original => return .original original)
  | .atomicFaa wrid rkey remoteVa addend => d.working (.ok ()) fun _ =>
      d.request 1 (Backend.onStore (MemoryStore.atomicOp rkey remoteVa atomicTypeFaa addend 0))
        (completes wrid .atomicReq (fun _ => 8) fun original => return .original original)
  | .pollCq max => d.locally ((RdowsConnection.pollCq max).mapValue .completions)
  | .writeLocalMr lkey offset data =>
      d.locally ((RdowsConnection.writeLocalMr lkey offset data).mapValue fun _ => .unit)
  | .readLocalMr lkey offset len => ((d.conn.readLocalMr lkey offset len).map .bytes, d)

/-- Make a call, and count it: the transport's errors are numbered by calls. -/
def call (readings : Readings) (d : Direct) (verb : Verb) : Outcome RdowsError VerbValue × Direct :=
  perform readings { d with calls := d.calls + 1 } verb

/-- The state after `connect`: an empty store on one side, a fresh connection on the other. -/
def start (transport : Transport) (config : ServerConfig) (now : ℕ) (sessionId : UInt32)
    (cqCapacity : ℕ) : Direct where
  transport
  conn := Network.readyConnection sessionId cqCapacity
  backend := (Network.readySession config now sessionId).backend
  running := true
  handled := 0
  calls := 0

/-- A payload of this length is no larger than negotiated, and the transport takes its frame. -/
def Carries (d : Direct) (payload : ℕ) : Prop :=
  payload ≤ defaultMaxMsgSize.toNat ∧ d.transport.takes (headerSize + payload) = true

/-- **The calls that the network carries out as they are.**

* The frames of a SEND and of a WRITE are carried.  The server ends the session at a frame that is
  not, and answers a frame that is only larger than negotiated as it answers no other.
* A WRITE names a live R_Key with the right to write; one that does not is answered twice.
* What a READ_REQ is answered with has a length that fits its 32-bit field, and the transport takes
  its frame.  The size that was negotiated does not matter here: the client does not look at it. -/
def Admits (d : Direct) : Verb → Prop
  | .postSend _ sgList => ∀ data, d.conn.gatherSgData sgList = .ok data →
      d.Carries (4 + sgList.length * sgEntrySize) ∧ d.Carries data.length
  | .rdmaWrite _ rkey _ sgList => ∀ data, d.conn.gatherSgData sgList = .ok data →
      d.Carries (WritePayload.writeHeaderSize + sgList.length * sgEntrySize) ∧
      d.Carries data.length ∧ (d.backend.memoryStore.validateRkey rkey .remoteWrite).IsOk
  | .rdmaRead _ rkey remoteVa readLen _ _ => ∀ data,
      d.backend.memoryStore.readRegion rkey remoteVa readLen = .ok data →
        8 + data.length < 2 ^ 32 ∧ d.transport.takes (headerSize + (8 + data.length)) = true
  | _ => True

end Direct

/-! ### Calls that succeed -/

namespace RdowsConnection

/-- The connection with a completion pushed. -/
def completed (c : RdowsConnection) (wrid : UInt64) (status : UInt16) (opcode : Opcode)
    (byteCount : UInt32) : RdowsConnection :=
  ((pushCqe wrid status opcode byteCount).run c).2

theorem run_completes_ok {α : Type} {c c' : RdowsConnection} {wrid : UInt64} {opcode : Opcode}
    {byteCount : α → UInt32} {deliver : α → Local VerbValue} {a : α} {value : VerbValue}
    (delivered : (deliver a).run c = (.ok value, c')) :
    (completes wrid opcode byteCount deliver (.ok a)).run c
      = (.ok value, c'.completed wrid 0 opcode (byteCount a)) :=
  Method.run_bind_of_ok delivered

theorem run_granted {regionLen : UInt64} (small : regionLen.toNat ≤ isizeMax) (lkey : LKey)
    (rkey : RKey) (c : RdowsConnection) :
    let handle : MemoryRegionHandle :=
      { lkey, rkey, len := regionLen, localBuf := List.replicate regionLen.toNat 0 }
    (granted lkey rkey regionLen).run c
      = (.ok (.handle handle), { c with localMrs := c.localMrs.insert lkey.value handle }) := by
  have allocated : (zeroed regionLen.toNat : Outcome RdowsError Bytes)
      = .ok (List.replicate regionLen.toNat 0) := if_pos small
  rw [granted, allocated]
  rfl

end RdowsConnection

namespace Direct

open RdowsConnection

variable {α : Type} {d : Direct} {readings : Readings}

/-- Every transport carries a short payload. -/
theorem carries_of_le {payload : ℕ} (short : payload ≤ 104) : d.Carries payload :=
  ⟨short.trans (by decide), Transport.takes_of_le (Nat.add_le_add_left short headerSize)⟩

theorem request_of_ok {x : Method Backend ErrorCode α} {a : α} {backend : Backend}
    {finish : Except ErrorCode α → Local VerbValue} {value : VerbValue} {conn : RdowsConnection}
    (present : d.running = true) (ran : x.run d.backend = (.ok a, backend))
    (returned : (finish (.ok a)).run d.conn = (.ok value, conn)) (frames : ℕ) :
    d.request frames x finish
      = (.ok value, { d with conn, backend, handled := d.handled + frames }) := by
  rw [request, if_pos present, ran]
  dsimp only [conclude]
  rw [returned]

theorem working_of_ok (room : d.conn.cq.isFull = false) (a : α)
    (next : α → Outcome RdowsError VerbValue × Direct) : d.working (.ok a) next = next a :=
  if_neg (by rw [room]; exact Bool.false_ne_true)

/-- **`reg_mr`** below the limits: if the rate limit leaves room, the client can hold such a buffer
and the store registers the region, the call returns its handle and keeps a local buffer of
zeros. -/
theorem call_regMr {accessFlags : AccessFlags} {len : UInt64} {lkey : LKey} {rkey : RKey}
    {store : MemoryStore} (present : d.running = true)
    (below : (d.backend.refreshed (readings d.handled).1).mrRegCount < d.backend.mrRegRateLimit)
    (small : len.toNat ≤ isizeMax)
    (registered : (MemoryStore.register (readings d.handled).2 d.conn.pd accessFlags len).run
      d.backend.memoryStore = (.ok (lkey, rkey), store)) :
    let handle : MemoryRegionHandle := { lkey, rkey, len, localBuf := List.replicate len.toNat 0 }
    let fresh := d.backend.refreshed (readings d.handled).1
    d.call readings (.regMr accessFlags len) = (.ok (.handle handle), { d with
      conn := { d.conn with localMrs := d.conn.localMrs.insert lkey.value handle }
      backend := { fresh with mrRegCount := fresh.mrRegCount + 1, memoryStore := store }
      handled := d.handled + 1
      calls := d.calls + 1 }) := by
  intro handle fresh
  rw [call, perform]
  refine request_of_ok (d := { d with calls := d.calls + 1 }) (a := (lkey, rkey)) present ?_
    (run_granted small lkey rkey d.conn) 1
  obtain ⟨count, start, same, -⟩ := d.backend.refreshed_eq (readings d.handled).1
  show _ = (_, { d.backend.refreshed (readings d.handled).1 with
    mrRegCount := (d.backend.refreshed (readings d.handled).1).mrRegCount + 1
    memoryStore := store })
  rw [same] at below ⊢
  rw [Backend.run_register, same, if_neg (by exact UInt32.not_le.mpr below), Backend.run_onStore]
  dsimp only
  rw [registered]

/-- **`rdma_read`** of bytes that are there, into a local buffer that has room for them: the bytes
are copied, and the work request is completed. -/
theorem call_rdmaRead {rkey : RKey} {remoteVa readLen : UInt64} {data : Bytes} {localLkey : LKey}
    {localVa : UInt64} (present : d.running = true) (room : d.conn.cq.isFull = false)
    (reads : d.backend.maxOutstandingReads ≠ 0)
    (read : d.backend.memoryStore.readRegion rkey remoteVa readLen = .ok data)
    (inside : d.conn.Inside localLkey localVa.toNat data.length)
    (fits : localVa.toNat + data.length < usizeBound) (wrid : UInt64) :
    d.call readings (.rdmaRead wrid rkey remoteVa readLen localLkey localVa) = (.ok .unit, { d with
      conn := (d.conn.withBytes localLkey localVa.toNat data).completed wrid 0 .readReq
        (UInt32.ofNat data.length)
      handled := d.handled + 1
      calls := d.calls + 1 }) := by
  have ran : (Backend.read rkey remoteVa readLen).run d.backend = (.ok data, d.backend) := by
    rw [Backend.read, Method.run_bind_of_ok (Method.run_get _), Method.run_ite, if_neg reads, read]
    rfl
  have copied := (copyToLocalMr_run fun _ => fits).inside inside
  rw [call, perform, working_of_ok (by exact room)]
  exact request_of_ok (d := { d with calls := d.calls + 1 }) present ran
    (run_completes_ok (Method.run_bind_of_ok copied)) 1

/-- **`rdma_write`** of bytes that have room in their region: the store has them, and the work
request is completed.  The call takes two frames. -/
theorem call_rdmaWrite {rkey : RKey} {remoteVa : UInt64} {sgList : List ScatterGatherEntry}
    {data : Bytes} {store : MemoryStore} (present : d.running = true)
    (room : d.conn.cq.isFull = false) (gathered : d.conn.gatherSgData sgList = .ok data)
    (written : (MemoryStore.writeRegion rkey remoteVa data).run d.backend.memoryStore
      = (.ok (), store)) (wrid : UInt64) :
    d.call readings (.rdmaWrite wrid rkey remoteVa sgList) = (.ok .unit, { d with
      conn := d.conn.completed wrid 0 .write (UInt64.ofNat data.length).toUInt32
      backend := { d.backend with memoryStore := store }
      handled := d.handled + 2
      calls := d.calls + 1 }) := by
  have ran : (Backend.onStore (MemoryStore.writeRegion rkey remoteVa data)).run d.backend
      = (.ok (), { d.backend with memoryStore := store }) := by
    rw [Backend.run_onStore, written]
  rw [call, perform, gathered, working_of_ok (by exact room)]
  exact request_of_ok (d := { d with calls := d.calls + 1 }) present ran (run_completes_ok rfl) 2

/-- A write that succeeds was allowed. -/
theorem validateRkey_of_writeRegion {store store' : MemoryStore} {rkey : RKey} {remoteVa : UInt64}
    {data : Bytes}
    (written : (MemoryStore.writeRegion rkey remoteVa data).run store = (.ok (), store')) :
    (store.validateRkey rkey .remoteWrite).IsOk := by
  rcases granted : store.entryFor rkey .remoteWrite with found | code | p
  · rw [MemoryStore.validateRkey, granted]
    trivial
  · rw [MemoryStore.writeRegion_run_refused granted] at written
    cases written
  · exact absurd granted (MemoryStore.entryFor_ne_panic _ _ _ _)

/-- **`write_local_mr`** inside a buffer.  The end of the range has to be a 64-bit number, or the
addition panics. -/
theorem call_writeLocalMr {lkey : LKey} {offset : ℕ} {data : Bytes}
    (inside : d.conn.Inside lkey offset data.length) (fits : offset + data.length < usizeBound) :
    d.call readings (.writeLocalMr lkey offset data)
      = (.ok .unit, { d with
        conn := d.conn.withBytes lkey offset data, calls := d.calls + 1 }) := by
  have copied := (copyToLocalMr_run fun _ => fits).inside inside
  rw [call, perform, locally, writeLocalMr, Method.run_mapValue, copied]
  rfl

/-- **`read_local_mr`** inside a buffer, which sends nothing and changes nothing. -/
theorem call_readLocalMr {lkey : LKey} {offset len : ℕ} {data : Bytes}
    (read : d.conn.readLocalMr lkey offset len = .ok data) :
    d.call readings (.readLocalMr lkey offset len)
      = (.ok (.bytes data), { d with calls := d.calls + 1 }) := by
  rw [call, perform, read]
  rfl

end Direct

end Rdows
