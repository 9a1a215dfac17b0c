import Rdows.Kv.Operations
import Rdows.Network.Registration

/-!
# The key-value store over the wire

`Kv.Store` lets the remote region itself be the receiver of `KvStore`'s methods.  Here they are what
they are in `kv.rs`: programs that call verbs of a connection, with a staging buffer of one slot, a
counter of work requests and a completion queue that is polled after every one of them.

## The two versions of the store

Reading a slot takes three calls: an RDMA read into the staging buffer, a poll, and a local read.
Writing one takes three as well.  `Attached` is the relation under which these are a read and a
write of the region: the completion queue is empty and the staging buffer has its size (`Staged`),
the server holds the region under the right key and with the right access rights (`Backs`), and the
counter of work requests does not run over within the budget.  Each method `Performs` what the
method on the region does, with the number of work requests it may cost; the proofs follow the
bodies, since both versions have the same shape.

## The connection is one level down

The calls are served by `Direct`, in which a verb is a function call on client and server together.
That a real connection, with its channels and schedules, cannot be told from it is the subject of
the network modules, so nothing here speaks of frames.

## The beginning

`create` registers the region of the store and the staging buffer.  `yields_create` says that the
new store is attached to a region of zeros, if the server's configuration has room for it (`Admits`)
and its generator draws two fresh keys (`DrawsKeys`).
-/

namespace Rdows

open Rust

namespace Kv

/-- `KvStore`, without the connection that its methods use.  The key of the region is kept twice, as
in the source. -/
structure KvStore where
  remoteRkey : RKey
  localLkey : LKey
  sessionId : UInt32
  remoteRkeyValue : UInt32
  nextWrid : UInt64

/-- `KvStore::new`.  Work requests are numbered from one. -/
def KvStore.new (sessionId : UInt32) (remoteRkey : RKey) (localLkey : LKey) : KvStore where
  remoteRkey
  localLkey
  sessionId
  remoteRkeyValue := remoteRkey.value
  nextWrid := 1

/-- A method of the store that makes calls on its connection. -/
abbrev KvCaller := Caller Verb RdowsError VerbValue KvStore KvError

namespace Remote

/-- `next_wrid`: the counter is a `u64` with overflow checks. -/
def nextWrid : KvCaller UInt64 := Caller.ofMethod do
  let kv ← Method.get
  let next ← Method.lift (.orPanic .arithmeticOverflow (checkedAdd64 kv.nextWrid 1))
  Method.modify fun kv => { kv with nextWrid := next }
  return kv.nextWrid

/-- A call on the connection; `?` makes its error a `KvError` and ends the method. -/
def conn (verb : Verb) : KvCaller VerbValue := Caller.invoke .rdma verb

/-- The bytes that `read_local_mr` returned. -/
def bytes : VerbValue → Bytes
  | .bytes data => data
  | _ => []

/-- `read_slot`: into the staging buffer by RDMA, one completion polled, and out of the buffer
again.  What the completion says is not looked at: a failed read has ended the method by then. -/
def readSlot (slotIndex : ℕ) : KvCaller Bytes := do
  let kv ← Caller.get
  let remoteVa := UInt64.ofNat (slotIndex * slotSize)
  let wrid ← nextWrid
  let _ ← conn (.rdmaRead wrid kv.remoteRkey remoteVa (UInt64.ofNat slotSize) kv.localLkey 0)
  let _ ← conn (.pollCq 1)
  let data ← conn (.readLocalMr kv.localLkey 0 slotSize)
  Caller.lift (copyFromSlice (List.replicate slotSize 0) 0 slotSize (bytes data))

/-- `write_slot`: through the staging buffer, which is overwritten by the next operation. -/
def writeSlot (slotIndex : ℕ) (slotData : Bytes) : KvCaller Unit := do
  let kv ← Caller.get
  let remoteVa := UInt64.ofNat (slotIndex * slotSize)
  let _ ← conn (.writeLocalMr kv.localLkey 0 slotData)
  let wrid ← nextWrid
  let _ ← conn (.rdmaWrite wrid kv.remoteRkey remoteVa
    [{ lkey := kv.localLkey, offset := 0, length := UInt32.ofNat slotSize }])
  let _ ← conn (.pollCq 1)
  return ()

/-- The loop of `put`, `get` and `delete`, as in `Kv.Store` but with reads over the wire. -/
def probeLoop {α : Type} (key : String) (empty : ℕ → ℕ → KvCaller α)
    (found : ℕ → ℕ → Bytes → String → KvCaller α) (exhausted : KvCaller α) :
    ℕ → ℕ → KvCaller α
  | _, 0 => exhausted
  | i, left + 1 => do
      let idx := (hashKey (utf8Bytes key) + i) % slotCount
      let slot ← readSlot idx
      match ← Caller.lift (decodeSlot slot) with
      | none => empty idx (i + 1)
      | some (existingKey, value) =>
          if existingKey = key then found idx (i + 1) slot value
          else probeLoop key empty found exhausted (i + 1) left

/-- The two branches of `put` that write. -/
def putAt (key value : String) (update : Bool) (idx probes : ℕ) : KvCaller PutResult := do
  let newSlot ← Caller.lift (encodeSlot key value)
  writeSlot idx newSlot
  return {
    operation := "RDMA_WRITE", slot := idx, offset := slotOffset idx, bytes := slotSize
    key, value, probes, update }

/-- `put`. -/
def put (key value : String) : KvCaller PutResult :=
  if (utf8Bytes key).length > maxKeyLen then Caller.throw .keyTooLong
  else if (utf8Bytes value).length > maxValueLen then Caller.throw .valueTooLong
  else
    probeLoop key (putAt key value false) (fun idx probes _ _ => putAt key value true idx probes)
      (Caller.throw .tableFull) 0 slotCount

/-- `get`. -/
def get (key : String) : KvCaller (Option GetResult) :=
  probeLoop key (fun _ _ => return none)
    (fun idx probes slot value => do
      let rawHex ← Caller.lift (slotHexLines slot)
      return some {
        operation := "RDMA_READ", slot := idx, offset := slotOffset idx, bytes := slotSize
        key, value, probes, rawHex })
    (return none) 0 slotCount

/-- `delete`. -/
def delete (key : String) : KvCaller DeleteResult :=
  probeLoop key
    (fun idx probes => return {
      operation := "RDMA_WRITE", slot := idx, offset := slotOffset idx, bytes := slotSize
      key, probes, found := false })
    (fun idx probes _ _ => do
      writeSlot idx (List.replicate slotSize 0)
      return {
        operation := "RDMA_WRITE", slot := idx, offset := slotOffset idx, bytes := slotSize
        key, probes, found := true })
    (return {
      operation := "RDMA_READ", slot := hashKey (utf8Bytes key)
      offset := slotOffset (hashKey (utf8Bytes key)), bytes := slotSize
      key, probes := slotCount, found := false })
    0 slotCount

/-- The loop of `dump_slots`. -/
def dumpSlotsLoop : List ℕ → KvCaller (List SlotInfo)
  | [] => return []
  | idx :: rest => do
      let slot ← readSlot idx
      let entry ← Caller.lift (decodeSlot slot)
      let slots ← dumpSlotsLoop rest
      return slotInfo idx entry :: slots

/-- `dump_slots`. -/
def dumpSlots : KvCaller (List SlotInfo) := dumpSlotsLoop (List.range slotCount)

/-- The handle that `reg_mr` returned. -/
def handle : VerbValue → MemoryRegionHandle
  | .handle handle => handle
  | _ => { lkey := ⟨0⟩, rkey := ⟨0⟩, len := 0, localBuf := [] }

/-- The part of `main` that registers the two regions and makes the store.  The region of the store
is readable and writable by remote access. -/
def create (sessionId : UInt32) : Caller Verb RdowsError VerbValue Unit RdowsError KvStore := do
  let remoteMr ← Caller.invoke id (.regMr (.remoteWrite ||| .remoteRead) (UInt64.ofNat mrSize))
  let localMr ← Caller.invoke id (.regMr .localWrite (UInt64.ofNat slotSize))
  return .new sessionId (handle remoteMr).rkey (handle localMr).lkey

/-- A call that returned. -/
theorem yields_conn {readings : Readings} {d d' : Direct} {verb : Verb} {value : VerbValue}
    (admits : d.Admits verb) (served : d.call readings verb = (.ok value, d')) (kv : KvStore) :
    ((conn verb).start kv).Yields (Direct.call readings) Direct.Admits d (.ok value, kv) d' :=
  Caller.yields_invoke admits served kv

end Remote

/-! ### The two sides -/

/-- The client's side: the completion queue is empty, and the staging buffer is one slot long.  Both
are restored by every operation, since it polls the completion it caused. -/
structure Staged (lkey : LKey) (c : RdowsConnection) : Prop where
  queue : c.cq.entries = []
  capacity : 0 < c.cq.capacity
  buffer : ∃ mr, c.localMrs.lookup lkey.value = some mr ∧ mr.localBuf.length = slotSize

namespace Staged

variable {lkey : LKey} {c : RdowsConnection} {data : Bytes}

theorem room (staged : Staged lkey c) : c.cq.isFull = false := by
  rw [CompletionQueue.isFull, staged.queue]
  exact decide_eq_false (Nat.not_le.mpr staged.capacity)

theorem inside (staged : Staged lkey c) : c.Inside lkey 0 slotSize := by
  obtain ⟨mr, found, size⟩ := staged.buffer
  exact ⟨mr, found, by rw [Nat.zero_add, size]⟩

/-- The staging buffer after one slot has been copied into it. -/
theorem copied (staged : Staged lkey c) (whole : data.length = slotSize) :
    Staged lkey (c.withBytes lkey 0 data) ∧
      (c.withBytes lkey 0 data).readLocalMr lkey 0 slotSize = .ok data := by
  have fits : 0 + data.length < usizeBound := by
    rw [whole]
    decide
  have run := (RdowsConnection.copyToLocalMr_run fun _ => fits).inside
    (by rw [whole]; exact staged.inside)
  have readBack := RdowsConnection.readLocalMr_of_copyToLocalMr run
  rw [whole] at readBack
  obtain ⟨mr, found, size⟩ := staged.buffer
  refine ⟨⟨?_, ?_, ?_⟩, readBack⟩
  · rw [RdowsConnection.withBytes, found]
    exact staged.queue
  · rw [RdowsConnection.withBytes, found]
    exact staged.capacity
  · refine ⟨{ mr with localBuf := splice mr.localBuf 0 data }, ?_, ?_⟩
    · rw [RdowsConnection.withBytes, found]
      exact AList.lookup_insert _
    · show (splice mr.localBuf 0 data).length = slotSize
      rw [length_splice (by rw [whole, size, Nat.zero_add]), size]

/-- Polling takes out the one completion of a work request, so that the queue is empty again. -/
theorem polled (staged : Staged lkey c) (wrid : UInt64) (status : UInt16) (opcode : Opcode)
    (byteCount : UInt32) :
    Staged lkey { c.completed wrid status opcode byteCount with
      cq := ((c.completed wrid status opcode byteCount).cq.pollCq 1).2 } := by
  have room : ¬ c.cq.capacity ≤ ([] : List CompletionQueueEntry).length :=
    Nat.not_le.mpr staged.capacity
  have pushed : (c.completed wrid status opcode byteCount).cq
      = { c.cq with entries := [⟨wrid, status, opcode, 0, byteCount, c.sessionId⟩] } := by
    show (c.cq.push _).2 = _
    rw [CompletionQueue.push, staged.queue, if_neg room]
    rfl
  rw [pushed]
  exact ⟨rfl, staged.capacity, staged.buffer⟩

end Staged

/-- The server's side: it holds the region under the key, with the rights that the store asked for,
and the region has its full size. -/
structure Backs (rkey : RKey) (backend : Backend) (region : Bytes) : Prop where
  reads : backend.maxOutstandingReads ≠ 0
  inv : backend.memoryStore.StoreInv
  table : backend.memoryStore.toMemory rkey = some ⟨.remoteWrite ||| .remoteRead, region⟩
  length : region.length = mrSize

/-- The address of a slot. -/
theorem toNat_slotStart {idx : ℕ} (known : idx < slotCount) :
    (UInt64.ofNat (idx * slotSize)).toNat = idx * slotSize := by
  refine UInt64.toNat_ofNat_of_lt' ?_
  have bound : idx < 64 := known
  show idx * 1024 < 2 ^ 64
  omega

namespace Backs

variable {rkey : RKey} {backend : Backend} {region : Bytes} {idx : ℕ}

/-- The server returns the bytes of a slot. -/
theorem read (backs : Backs rkey backend region) (known : idx < slotCount) :
    backend.memoryStore.readRegion rkey (UInt64.ofNat (idx * slotSize)) (UInt64.ofNat slotSize)
      = .ok (slotAt region idx) := by
  have right : (AccessFlags.remoteWrite ||| .remoteRead).contains .remoteRead := by decide
  have granted : backend.memoryStore.toMemory.access rkey .remoteRead = .ok ⟨_, region⟩ :=
    Memory.access_eq_ok.mpr ⟨backs.table, right⟩
  rw [MemoryStore.readRegion_refines backs.inv, Memory.read, granted, toNat_slotStart known]
  exact congrArg Outcome.ofExcept (if_pos (slot_inside backs.length ⟨idx, known⟩))

/-- The server stores the bytes of a slot. -/
theorem write (backs : Backs rkey backend region) (known : idx < slotCount) {slot : Bytes}
    (whole : slot.length = slotSize) : ∃ store,
      (MemoryStore.writeRegion rkey (UInt64.ofNat (idx * slotSize)) slot).run backend.memoryStore
        = (.ok (), store) ∧
      Backs rkey { backend with memoryStore := store } (splice region (idx * slotSize) slot) := by
  have right : (AccessFlags.remoteWrite ||| .remoteRead).contains .remoteWrite := by decide
  have granted : backend.memoryStore.toMemory.access rkey .remoteWrite = .ok ⟨_, region⟩ :=
    Memory.access_eq_ok.mpr ⟨backs.table, right⟩
  have inside : idx * slotSize + slot.length ≤ region.length := by
    rw [whole]
    exact slot_inside backs.length ⟨idx, known⟩
  have writes : backend.memoryStore.toMemory.write rkey (idx * slotSize) slot
      = (.ok (), backend.memoryStore.toMemory.set rkey
          (some ⟨.remoteWrite ||| .remoteRead, splice region (idx * slotSize) slot⟩)) := by
    rw [Memory.write, granted]
    exact if_pos inside
  -- the abstract write is computed above; the store does the same by refinement
  obtain ⟨outcome, memory⟩ := MemoryStore.writeRegion_refines backs.inv rkey
    (UInt64.ofNat (idx * slotSize)) slot
  rw [toNat_slotStart known, writes] at outcome memory
  refine ⟨_, Prod.ext outcome rfl, backs.reads, ?_, ?_, ?_⟩
  · exact backs.inv.step (.writeRegion rkey (UInt64.ofNat (idx * slotSize)) slot)
  · show MemoryStore.toMemory _ rkey = _
    rw [memory]
    exact Memory.set_self _ _ _
  · rw [length_splice inside]
    exact backs.length

end Backs

/-- **The store is attached to its region**, and has numbers for `n` more work requests.  It is the
store `kv₀` up to the counter of work requests. -/
structure Attached (kv₀ : KvStore) (n : ℕ) (kv : KvStore) (d : Direct) (region : Bytes) :
    Prop where
  identity : { kv with nextWrid := kv₀.nextWrid } = kv₀
  running : d.running = true
  staged : Staged kv.localLkey d.conn
  backs : Backs kv.remoteRkey d.backend region
  /-- The transport takes a READ_RESP with a slot in it, the longest frame there is. -/
  frames : d.transport.takes (headerSize + (8 + slotSize)) = true
  wrids : kv.nextWrid.toNat + n < 2 ^ 64

/-- The method does with the verbs what it does on the region, with so many work requests at
most. -/
abbrev Performs {α : Type} (readings : Readings) (kv₀ : KvStore) (cost : ℕ) (x : KvCaller α)
    (y : KvMethod α) : Prop :=
  Caller.Implements (Direct.call readings) Direct.Admits (Attached kv₀) cost x y

namespace Attached

variable {readings : Readings} {n : ℕ} {kv₀ kv : KvStore} {d : Direct} {region : Bytes}
  {idx : ℕ}

/-- A budget may be left unused: numbers that are not taken do no harm. -/
theorem spare (n : ℕ) (kv : KvStore) (d : Direct) (region : Bytes)
    (attached : Attached kv₀ (n + 1) kv d region) : Attached kv₀ n kv d region :=
  ⟨attached.identity, attached.running, attached.staged, attached.backs, attached.frames,
    Nat.lt_of_succ_lt attached.wrids⟩

/-- `next_wrid` on a counter that is not at its end. -/
theorem nextWrid (attached : Attached kv₀ (n + 1) kv d region) (readings : Readings) :
    (∀ t, (Remote.nextWrid.start kv).Yields (Direct.call readings) Direct.Admits t
        (.ok kv.nextWrid, { kv with nextWrid := kv.nextWrid + 1 }) t) ∧
      (kv.nextWrid + 1).toNat + n < 2 ^ 64 := by
  have below : kv.nextWrid.toNat + 1 < 2 ^ 64 := by
    have := attached.wrids
    omega
  have next : checkedAdd64 kv.nextWrid 1 = some (kv.nextWrid + 1) := if_pos below
  refine ⟨fun t => Caller.yields_ofMethod ?_ t, ?_⟩
  · rw [Method.run_bind_of_ok (Method.run_get kv), next]
    rfl
  · rw [toNat_add64 below]
    show kv.nextWrid.toNat + 1 + n < 2 ^ 64
    have := attached.wrids
    omega

/-- A work request that was served and polled. -/
theorem worked (attached : Attached kv₀ (n + 1) kv d region) {c : RdowsConnection}
    {backend : Backend} {region' : Bytes} (staged : Staged kv.localLkey c)
    (backs : Backs kv.remoteRkey backend region') (wrids : (kv.nextWrid + 1).toNat + n < 2 ^ 64)
    (wrid : UInt64) (status : UInt16) (opcode : Opcode) (byteCount : UInt32) (handled calls : ℕ) :
    let done := c.completed wrid status opcode byteCount
    Attached kv₀ n { kv with nextWrid := kv.nextWrid + 1 }
      { d with conn := { done with cq := (done.cq.pollCq 1).2 }, backend, handled, calls }
      region' where
  identity := attached.identity
  running := attached.running
  staged := staged.polled _ _ _ _
  backs := backs
  frames := attached.frames
  wrids := wrids

/-- **`read_slot` returns the bytes of the slot**, and costs one work request. -/
theorem readSlot (known : idx < slotCount) :
    Performs readings kv₀ 1 (Remote.readSlot idx) (Kv.readSlot idx) := by
  intro n kv d region attached
  have inside := slot_inside attached.backs.length ⟨idx, known⟩
  have whole : (slotAt region idx).length = slotSize := by
    rw [slotAt, List.length_take, List.length_drop]
    exact Nat.min_eq_left (Nat.le_sub_of_add_le' inside)
  have model : (Kv.readSlot idx).run region = (.ok (slotAt region idx), region) := by
    rw [Kv.readSlot, Method.run_bind_of_ok (Method.run_get region), Method.run_ite, if_pos inside]
    rfl
  obtain ⟨numbered, wrids⟩ := attached.nextWrid readings
  obtain ⟨staged, readBack⟩ := attached.staged.copied whole
  have found := attached.backs.read known
  have inside : d.conn.Inside kv.localLkey (0 : UInt64).toNat (slotAt region idx).length := by
    rw [whole]
    exact attached.staged.inside
  have fits : (0 : UInt64).toNat + (slotAt region idx).length < usizeBound := by
    rw [whole]
    decide
  rw [model]
  refine ⟨_, _, ?_, attached.worked staged attached.backs wrids kv.nextWrid 0
    .readReq (UInt32.ofNat (slotAt region idx).length) (d.handled + 1) (d.calls + 1 + 1 + 1)⟩
  -- the calls of the client in their order: the number, the read, the poll, the local read
  refine Caller.yields_bind (Caller.yields_get _ _) (Caller.yields_bind (numbered d) ?_)
  refine Caller.yields_bind (Remote.yields_conn ?_ (Direct.call_rdmaRead attached.running
    attached.staged.room attached.backs.reads found inside fits kv.nextWrid) _) ?_
  · intro data returned
    rw [found] at returned
    cases returned
    rw [whole]
    exact ⟨by decide, attached.frames⟩
  refine Caller.yields_bind (Remote.yields_conn (by trivial) rfl _) ?_
  refine Caller.yields_bind
    (Remote.yields_conn (by trivial) (Direct.call_readLocalMr readBack) _) ?_
  dsimp only [Remote.bytes]
  rw [copyFromSlice_replicate whole]
  exact .done _ _

/-- **`write_slot` replaces the bytes of the slot**, and costs one work request.  The slot has to be
whole, which `encode_slot` sees to. -/
theorem writeSlot (known : idx < slotCount) {slot : Bytes} (whole : slot.length = slotSize) :
    Performs readings kv₀ 1 (Remote.writeSlot idx slot) (Kv.writeSlot idx slot) := by
  intro n kv d region attached
  have model : (Kv.writeSlot idx slot).run region
      = (.ok (), splice region (idx * slotSize) slot) := by
    rw [Kv.writeSlot, Method.run_bind_of_ok (Method.run_get region), Method.run_ite, if_pos ?_]
    · rfl
    · rw [whole]
      exact slot_inside attached.backs.length ⟨idx, known⟩
  obtain ⟨numbered, wrids⟩ := attached.nextWrid readings
  obtain ⟨staged, readBack⟩ := attached.staged.copied whole
  obtain ⟨store, written, backs⟩ := attached.backs.write known whole
  -- what was staged by the local copy is what the write gathers
  have gathered : (d.conn.withBytes kv.localLkey 0 slot).gatherSgData
      [{ lkey := kv.localLkey, offset := 0, length := UInt32.ofNat slotSize }] = .ok slot := by
    rw [RdowsConnection.gatherSgData_cons]
    show (do
      let data ← (d.conn.withBytes kv.localLkey 0 slot).readLocalMr kv.localLkey 0 slotSize
      return data ++ (← (d.conn.withBytes kv.localLkey 0 slot).gatherSgData [])) = _
    rw [readBack]
    exact congrArg Outcome.ok (List.append_nil slot)
  have fits : 0 + slot.length < usizeBound := by
    rw [whole]
    decide
  have inside : d.conn.Inside kv.localLkey 0 slot.length := by
    rw [whole]
    exact attached.staged.inside
  rw [model]
  refine ⟨_, _, ?_, attached.worked staged backs wrids kv.nextWrid 0 .write
    (UInt64.ofNat slot.length).toUInt32 (d.handled + 2) (d.calls + 1 + 1 + 1)⟩
  -- the calls of the client in their order: the copy, the number, the write, the poll
  refine Caller.yields_bind (Caller.yields_get _ _) ?_
  refine Caller.yields_bind
    (Remote.yields_conn (by trivial) (Direct.call_writeLocalMr inside fits) _) ?_
  refine Caller.yields_bind (numbered _) ?_
  refine Caller.yields_bind (Remote.yields_conn ?_ (Direct.call_rdmaWrite
    (d := { d with conn := d.conn.withBytes kv.localLkey 0 slot, calls := d.calls + 1 })
    attached.running staged.room gathered written kv.nextWrid) _) ?_
  · intro data found
    rw [gathered] at found
    cases found
    refine ⟨Direct.carries_of_le (by show _ + 1 * _ ≤ _; decide), ?_,
      Direct.validateRkey_of_writeRegion written⟩
    rw [whole]
    exact ⟨by decide, Transport.takes_mono (by decide) attached.frames⟩
  refine Caller.yields_bind (Remote.yields_conn (by trivial) rfl _) ?_
  exact .done _ _

/-! ### The operations -/

section Loop

variable {α : Type} {key : String} {cost : ℕ} {empty : ℕ → ℕ → KvCaller α}
  {found : ℕ → ℕ → Bytes → String → KvCaller α} {exhausted : KvCaller α}
  {empty' : ℕ → ℕ → KvMethod α} {found' : ℕ → ℕ → Bytes → String → KvMethod α}
  {exhausted' : KvMethod α}

/-- **The probe loop**, whatever is done where it stops.  Every step costs one work request. -/
theorem probeLoop
    (atEmpty : ∀ idx < slotCount, ∀ probes,
      Performs readings kv₀ cost (empty idx probes) (empty' idx probes))
    (atFound : ∀ idx < slotCount, ∀ probes slot value,
      Performs readings kv₀ cost (found idx probes slot value) (found' idx probes slot value))
    (after : Performs readings kv₀ cost exhausted exhausted') (i left : ℕ) :
    Performs readings kv₀ (left + cost) (Remote.probeLoop key empty found exhausted i left)
      (Kv.probeLoop key empty' found' exhausted' i left) := by
  induction left generalizing i with
  | zero => exact after.mono spare (Nat.le_add_left _ _)
  | succ left ih =>
      have known : (hashKey (utf8Bytes key) + i) % slotCount < slotCount :=
        Nat.mod_lt _ (by decide)
      have less : cost ≤ left + cost := Nat.le_add_left _ _
      rw [Remote.probeLoop, Kv.probeLoop]
      suffices Performs readings kv₀ (1 + (left + cost)) _ _ from this.mono spare (by omega)
      refine .bind spare (readSlot known) fun slot => .lift_bind spare fun entry _ => ?_
      rcases entry with _ | ⟨existingKey, value⟩
      · exact (atEmpty _ known _).mono spare less
      · exact .ite (fun _ => (atFound _ known _ _ _).mono spare less) fun _ => ih (i + 1)

end Loop

theorem putAt {key value : String} (fitsKey : (utf8Bytes key).length ≤ maxKeyLen)
    (fitsValue : (utf8Bytes value).length ≤ maxValueLen) (update : Bool) (known : idx < slotCount)
    (probes : ℕ) :
    Performs readings kv₀ 1 (Remote.putAt key value update idx probes)
      (Kv.putAt key value update idx probes) := by
  refine .lift_bind spare fun slot encoded => ?_
  obtain ⟨slot', encoded', whole, -⟩ := decodeSlot_encodeSlot fitsKey fitsValue
  rw [encoded] at encoded'
  cases encoded'
  exact .bind spare (writeSlot known whole) fun _ => .pure _

/-- **`put` over the wire** is `put` on the region: one read for every slot it probes, and one
write. -/
theorem put (key value : String) :
    Performs readings kv₀ (slotCount + 1) (Remote.put key value) (Kv.put key value) := by
  refine .ite (fun _ => (Caller.Implements.throw _).mono spare (Nat.zero_le _)) fun fitsKey => ?_
  refine .ite (fun _ => (Caller.Implements.throw _).mono spare (Nat.zero_le _)) fun fitsValue => ?_
  have fitsKey := Nat.not_lt.mp fitsKey
  have fitsValue := Nat.not_lt.mp fitsValue
  exact probeLoop (fun _ known => putAt fitsKey fitsValue false known)
    (fun _ known probes _ _ => putAt fitsKey fitsValue true known probes)
    ((Caller.Implements.throw _).mono spare (Nat.zero_le _)) 0 slotCount

/-- **`get` over the wire** is `get` on the region. -/
theorem get (key : String) :
    Performs readings kv₀ (slotCount + 1) (Remote.get key) (Kv.get key) := by
  refine probeLoop (fun _ _ _ => (Caller.Implements.pure _).mono spare (Nat.zero_le _))
    (fun _ _ _ slot _ => .lift_bind spare fun _ _ => ?_)
    ((Caller.Implements.pure _).mono spare (Nat.zero_le _)) 0 slotCount
  exact (Caller.Implements.pure _).mono spare (Nat.zero_le _)

/-- **`delete` over the wire** is `delete` on the region. -/
theorem delete (key : String) :
    Performs readings kv₀ (slotCount + 1) (Remote.delete key) (Kv.delete key) :=
  probeLoop (fun _ _ _ => (Caller.Implements.pure _).mono spare (Nat.zero_le _))
    (fun _ known _ _ _ => .bind spare (writeSlot known List.length_replicate) fun _ => .pure _)
    ((Caller.Implements.pure _).mono spare (Nat.zero_le _)) 0 slotCount

theorem dumpSlotsLoop {indices : List ℕ} (known : ∀ idx ∈ indices, idx < slotCount) :
    Performs readings kv₀ indices.length (Remote.dumpSlotsLoop indices)
      (Kv.dumpSlotsLoop indices) := by
  induction indices with
  | nil => exact .pure _
  | cons idx rest ih =>
      have later := ih fun idx mem => known idx (List.mem_cons_of_mem _ mem)
      suffices Performs readings kv₀ (1 + rest.length) _ _ from
        this.mono spare (Nat.add_comm _ _).le
      refine .bind spare (readSlot (known idx List.mem_cons_self)) fun slot => ?_
      exact .lift_bind spare fun entry _ => .bind spare later fun _ => .pure _

/-- **`dump_slots` over the wire** is `dump_slots` on the region. -/
theorem dumpSlots : Performs readings kv₀ slotCount Remote.dumpSlots Kv.dumpSlots :=
  dumpSlotsLoop fun _ mem => List.mem_range.mp mem

end Attached

/-! ### The beginning -/

/-- The server's configuration leaves room for the store, and the transport takes its slots.  The
region of the store and the staging buffer are two registrations; the reads of the store are not
pipelined, so that it needs one of them. -/
structure Admits (transport : Transport) (config : ServerConfig) : Prop where
  slots : transport.takes (headerSize + (8 + slotSize)) = true
  regions : 2 ≤ config.maxRegionsPerSession
  bytes : mrSize + slotSize ≤ config.maxTotalBytesPerSession.toNat
  rate : 2 ≤ config.mrRegRateLimit.toNat
  reads : config.maxOutstandingReads ≠ 0

/-- The server's generator has a fresh key for each of the two registrations, which are the first
two frames that the server handles.  The source draws until it finds a key that is free; a generator
that only yields taken ones would keep it at that for ever. -/
structure DrawsKeys (readings : Readings) : Prop where
  first : 0 < (MemoryStore.drawable (readings 0).2).card
  second : 1 < (MemoryStore.drawable (readings 1).2).card

/-- **The new store is attached to a region of zeros.** -/
theorem yields_create {transport : Transport} {config : ServerConfig}
    (admits : Admits transport config) {readings : Readings} (draws : DrawsKeys readings)
    {cqCapacity : ℕ} (capacity : 0 < cqCapacity) (now : ℕ) (sessionId : UInt32) :
    ∃ kv d, ((Remote.create sessionId).start ()).Yields (Direct.call readings) Direct.Admits
        (.start transport config now sessionId cqCapacity) (.ok kv, ()) d ∧
      ∀ n, n + 1 < 2 ^ 64 → Attached kv n kv d emptyRegion := by
  have mrSize_eq : (UInt64.ofNat mrSize).toNat = mrSize := by decide
  have slotSize_eq : (UInt64.ofNat slotSize).toNat = slotSize := by decide
  have quota := admits.bytes
  have start := Direct.provisioned_start transport config now sessionId cqCapacity
  -- two registrations: the table on the server, and a staging buffer of one slot
  obtain ⟨remote, d₁, registered, once, granted⟩ := start.regMr readings
    (.remoteWrite ||| .remoteRead) (UInt64.ofNat mrSize) (by decide) (by decide)
    (by have := admits.regions; omega) (by have := admits.rate; omega)
    (by rw [mrSize_eq]; omega) draws.first
  obtain ⟨staging, d₂, registered', twice, granted'⟩ := once.regMr readings
    .localWrite (UInt64.ofNat slotSize) (by decide) (by decide)
    (by have := admits.regions; omega) (by have := admits.rate; omega)
    (by rw [mrSize_eq, slotSize_eq]; omega) draws.second
  refine ⟨.new sessionId remote.rkey staging.lkey, d₂, ?_, fun n few => ?_⟩
  · refine Caller.yields_bind (Caller.yields_invoke trivial registered ()) ?_
    exact Caller.yields_bind (Caller.yields_invoke trivial registered' ()) (.done _ _)
  -- the second key was free when it was drawn, and the first one was not
  · have apart : remote.rkey ≠ staging.rkey := by
      intro same
      have free := granted'.free
      rw [← same, granted.memory, Memory.set_self] at free
      cases free
    refine ⟨rfl, twice.running, ⟨?_, ?_, ?_⟩, ⟨?_, twice.inv, ?_, ?_⟩, ?_, ?_⟩
    · rw [granted'.queue, granted.queue]
      rfl
    · rw [granted'.queue, granted.queue]
      exact capacity
    · refine ⟨staging, ?_, ?_⟩
      · show d₂.conn.localMrs.lookup staging.lkey.value = some staging
        rw [granted'.localMrs]
        exact AList.lookup_insert _
      · rw [granted'.buffer, List.length_replicate, slotSize_eq]
    · rw [twice.reads]
      exact admits.reads
    · show d₂.backend.memoryStore.toMemory remote.rkey = _
      rw [granted'.memory, Memory.set_of_ne _ _ apart, granted.memory, Memory.set_self, mrSize_eq]
      rfl
    · exact List.length_replicate
    · rw [granted'.transport, granted.transport]
      exact admits.slots
    · show (1 : UInt64).toNat + n < 2 ^ 64
      rw [Nat.add_comm]
      exact few

end Kv

end Rdows
