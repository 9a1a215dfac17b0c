import Rdows.Network.AddressSpace
import Rdows.Network.Transparency
import Rdows.Server.Domains

/-!
# Remote memory is memory

A program on a connection, in every schedule, gets what it could have got from an address space
(`remote_memory_sequential`).  `Rdows.Network.Transparency` has already removed the network; what is
left is to forget how the two sides represent their memory.

## The view

`Direct.space` is the view: the store's two maps become regions and owners, the client's map becomes
buffers, and counters become an `Allowance`.  Nothing of the representation is left in it, neither
the two maps of the store that have to fit together nor the numbers that keys are.

## From parts to calls

* `Views` compares what the client does with its connection to what it does with the memory, and
  `Serves` does so for the server.  Both go from the parts of a call to the whole call, along the
  bodies of the methods.
* `Direct.Sound` is the invariant of the representation.  It is what makes a region that the client
  knows a region of the server, and the sums of the store the sums over the memory.
* `Direct.Sound.call` is the simulation of one call.  Only registrations are not determined by the
  memory, and each way in which one ends is traced to the reason that `AddressSpace.Allows` asks
  for.

For whole programs the simulation is `Program.run_refines`: the specification allows several results
of a registration, and a run of the component is one that it allows.
-/

namespace Rdows

open Rust Confluence

/-! ### The view -/

/-- A region that was registered could be allocated. -/
theorem MemoryStore.small_of_register {s t : MemoryStore} {draws : ℕ → UInt32}
    {pd : ProtectionDomain} {flags : AccessFlags} {len : UInt64} {keys : LKey × RKey}
    (run : (register draws pd flags len).run s = (.ok keys, t)) : len.toNat ≤ isizeMax := by
  have ends := register_spec draws pd flags len s
  rw [run] at ends
  cases ends with
  | registered val room fits quota next nonzero fresh =>
      by_contra large
      obtain ⟨givesUp, allocates⟩ := (register_run_of_quota room fits draws pd flags quota).2 next
      obtain gaveUp | ⟨val, -, -, drawn⟩ :=
        generateRkey_spec draws { s with nextLkey := s.nextLkey + 1 }
      · cases run.symm.trans (givesUp gaveUp)
      · have panics := allocates val drawn
        rw [if_neg large] at panics
        cases run.symm.trans panics

/-- A copy into a local region goes through if the range can be read. -/
theorem RdowsConnection.run_copyToLocalMr (c : RdowsConnection) (lkey : LKey) (start : ℕ)
    (data : Bytes) :
    (copyToLocalMr lkey start data).run c =
      match c.readLocalMr lkey start data.length with
      | .ok _ => (.ok (), c.withBytes lkey start data)
      | .err e => (.err e, c)
      | .panic p => (.panic p, c) := by
  rw [copyToLocalMr, Method.run_bind_of_ok (Method.run_get _), readLocalMr, localMr]
  rcases found : c.localMrs.lookup lkey.value with _ | mr
  · rfl
  rw [Outcome.okOr_some, Outcome.ok_bind, Method.run_bind_of_ok (Method.run_lift _ _)]
  rcases checked : checkRange mr start data.length with stop | e | p
  · obtain ⟨rfl, inside, -⟩ := checkRange_eq_ok.mp checked
    rw [Method.run_bind_of_ok (Method.run_lift _ _), copyFromSlice_eq_ok inside, Outcome.ok_bind,
      slice_eq_ok (Nat.le_add_right _ _) inside, Method.run_bind_of_ok (Method.run_lift _ _),
      Method.run_modify, withBytes, found]
  · rfl
  · rfl

/-- A map by its L_Keys, as a function.  The maps of the source are by the number of the key. -/
def byLkey {V W : Type} (f : V → W) (m : AList fun _ : UInt32 => V) (lkey : LKey) : Option W :=
  (m.lookup lkey.value).map f

section ByLkey

variable {V W : Type} {f : V → W} {m : AList fun _ : UInt32 => V} {v : V} (lkey : LKey)

theorem byLkey_insert : byLkey f (m.insert lkey.value v)
    = Function.update (byLkey f m) lkey (some (f v)) := by
  funext l
  rw [byLkey, AssocMap.lookup_insert_eq_ite, Function.update_apply]
  by_cases same : l = lkey
  · rw [if_pos (congrArg LKey.value same), if_pos same]
    rfl
  · rw [if_neg fun h => same (congrArg LKey.mk h), if_neg same]
    rfl

theorem byLkey_erase : byLkey f (m.erase lkey.value) = Function.update (byLkey f m) lkey none := by
  funext l
  rw [byLkey, AssocMap.lookup_erase_eq_ite, Function.update_apply]
  by_cases same : l = lkey
  · rw [if_pos (congrArg LKey.value same), if_pos same]
    rfl
  · rw [if_neg fun h => same (congrArg LKey.mk h), if_neg same]
    rfl

end ByLkey

/-- A write into a region keeps all keys. -/
theorem MemoryStore.WritesUnder.byLkey_rkey {s t : MemoryStore} {rkey : RKey} {right : AccessFlags}
    (writes : s.WritesUnder rkey right t) :
    byLkey MemoryRegionEntry.rkey t.regions = byLkey MemoryRegionEntry.rkey s.regions := by
  rcases writes with rfl | ⟨l, e, data, access, -, rfl⟩
  · rfl
  obtain ⟨-, found, -⟩ := entryFor_eq_ok.mp access
  have here : byLkey MemoryRegionEntry.rkey s.regions ⟨l⟩ = some e.rkey :=
    congrArg (Option.map _) found
  exact (byLkey_insert ⟨l⟩).trans (Function.update_eq_self_iff.mpr here.symm)

/-- What limits the registrations of a session. -/
def Backend.allowance (b : Backend) : Allowance where
  regions := b.memoryStore.maxRegions
  bytes := b.memoryStore.maxTotalBytes.toNat
  rate := b.mrRegRateLimit.toNat
  recent := b.mrRegCount.toNat
  nextLkey := b.memoryStore.nextLkey.toNat

/-- A write into a region uses up nothing of it. -/
theorem MemoryStore.WritesUnder.allowance_eq {b : Backend} {t : MemoryStore} {rkey : RKey}
    {right : AccessFlags} (writes : b.memoryStore.WritesUnder rkey right t) :
    Backend.allowance { b with memoryStore := t } = b.allowance := by
  rcases writes with rfl | ⟨l, e, data, -, -, rfl⟩ <;> rfl

namespace Direct

open RdowsConnection (Local)
open AddressSpace (Operation Access Linked)

variable {α β : Type} {d : Direct}

/-- What the two sides mean as one memory. -/
def space (d : Direct) : AddressSpace where
  remote := d.backend.memoryStore.toMemory
  owner := byLkey MemoryRegionEntry.rkey d.backend.memoryStore.regions
  buffers := byLkey MemoryRegionHandle.localBuf d.conn.localMrs
  queue := d.conn.cq
  sessionId := d.conn.sessionId
  receives := d.backend.recvQueueDepth.toNat
  reads := d.backend.maxOutstandingReads.toNat
  allowance := d.backend.allowance
  serving := d.running

theorem load_space (d : Direct) (lkey : LKey) (start len : ℕ) :
    d.space.load lkey start len = d.conn.readLocalMr lkey start len := by
  rw [AddressSpace.load, RdowsConnection.readLocalMr, RdowsConnection.localMr]
  simp only [space, byLkey]
  rcases found : d.conn.localMrs.lookup lkey.value with _ | mr
  · rfl
  rw [Option.map_some, Outcome.okOr_some, Outcome.ok_bind]
  dsimp only
  by_cases fits : start + len < usizeBound
  · rw [if_neg (Nat.not_le.mpr fits)]
    by_cases inside : start + len ≤ mr.localBuf.length
    · rw [if_pos inside, RdowsConnection.checkRange_eq_ok.mpr ⟨rfl, inside, fits⟩, Outcome.ok_bind,
        slice_eq_ok (Nat.le_add_right _ _) inside, Nat.add_sub_cancel_left]
    · rw [if_neg inside, RdowsConnection.checkRange, checkedAddUsize, if_pos fits,
        Outcome.orPanic_some, Outcome.ok_bind, if_pos (Nat.lt_of_not_le inside)]
      rfl
  · rw [if_pos (Nat.le_of_not_lt fits), RdowsConnection.checkRange, checkedAddUsize, if_neg fits]
    rfl

theorem gather_space (d : Direct) (entries : List ScatterGatherEntry) :
    d.space.gather entries = d.conn.gatherSgData entries := by
  induction entries with
  | nil => rfl
  | cons sg rest ih =>
      rw [AddressSpace.gather, RdowsConnection.gatherSgData_cons, load_space, ih]

/-- The view of another store. -/
theorem space_withStore {memoryStore : MemoryStore} {remote : Memory} {owner : LKey → Option RKey}
    (memory : memoryStore.toMemory = remote)
    (keys : byLkey MemoryRegionEntry.rkey memoryStore.regions = owner)
    (same : Backend.allowance { d.backend with memoryStore } = d.backend.allowance) :
    { d with backend := { d.backend with memoryStore } }.space
      = { d.space with remote, owner } := by
  rw [← memory, ← keys]
  show ({ d.space with
    remote := _, owner := _
    allowance := Backend.allowance { d.backend with memoryStore } } : AddressSpace) = _
  rw [same]
  rfl

/-- The view after a registration. -/
theorem space_withRegion {pd : ProtectionDomain} {flags : AccessFlags} {len : UInt64} {val : UInt32}
    (handled : ℕ) (count : UInt32) (start : ℕ)
    (remote : (d.backend.memoryStore.withRegion pd flags len val).toMemory
      = d.space.remote.set ⟨val⟩ (some ⟨flags, List.replicate len.toNat 0⟩)) :
    let lkey : LKey := ⟨d.backend.memoryStore.nextLkey⟩
    let handle : MemoryRegionHandle :=
      { lkey, rkey := ⟨val⟩, len, localBuf := List.replicate len.toNat 0 }
    let backend : Backend := { d.backend with
      memoryStore := d.backend.memoryStore.withRegion pd flags len val
      mrRegCount := count
      mrRegWindowStart := start }
    Direct.space { d with
      conn := { d.conn with localMrs := d.conn.localMrs.insert lkey.value handle }, backend
      handled }
      = { d.space.withRegion flags len.toNat lkey ⟨val⟩ with allowance := backend.allowance } := by
  intro lkey handle backend
  show ({ d.space with
      remote := (d.backend.memoryStore.withRegion pd flags len val).toMemory
      owner := byLkey _ (d.backend.memoryStore.regions.insert lkey.value _)
      buffers := byLkey _ (d.conn.localMrs.insert lkey.value handle)
      allowance := backend.allowance } : AddressSpace) = _
  rw [remote, byLkey_insert, byLkey_insert]
  rfl

/-- What the client does with its connection is what it does with the memory; the protection domain
stays the same. -/
def Views (x : Local α) (y : Operation α) : Prop :=
  ∀ d : Direct, y.run d.space = ((x.run d.conn).1, { d with conn := (x.run d.conn).2 }.space) ∧
    (x.run d.conn).2.pd = d.conn.pd

namespace Views

theorem lift (o : Outcome RdowsError α) : Views (Method.lift o) (Method.lift o) :=
  fun _ => ⟨rfl, rfl⟩

theorem pure (a : α) : Views (Pure.pure a) (Pure.pure a) := lift (.ok a)

theorem throw (e : RdowsError) : Views (Method.throw e : Local α) (Method.throw e) := lift (.err e)

theorem bind {x : Local α} {y : Operation α} {f : α → Local β} {g : α → Operation β}
    (first : Views x y) (second : ∀ a, Views (f a) (g a)) : Views (x >>= f) (y >>= g) := by
  intro d
  obtain ⟨same, kept⟩ := first d
  rw [Method.run_bind, Method.run_bind, same]
  rcases result : x.run d.conn with ⟨a | e | p, conn⟩ <;> rw [result] at kept
  · obtain ⟨same, kept'⟩ := second a { d with conn }
    exact ⟨same, kept'.trans kept⟩
  · exact ⟨rfl, kept⟩
  · exact ⟨rfl, kept⟩

theorem mapValue {x : Local α} {y : Operation α} (views : Views x y) (f : α → β) :
    Views (x.mapValue f) (y.mapValue f) := by
  intro d
  obtain ⟨same, kept⟩ := views d
  rw [Method.run_mapValue, Method.run_mapValue, same]
  exact ⟨rfl, kept⟩

theorem pushCqe (wrid : UInt64) (status : UInt16) (opcode : Opcode) (byteCount : UInt32) :
    Views (RdowsConnection.pushCqe wrid status opcode byteCount)
      (AddressSpace.report wrid status opcode byteCount) :=
  fun _ => ⟨rfl, rfl⟩

theorem pollCq (max : ℕ) :
    Views ((RdowsConnection.pollCq max).mapValue .completions) (AddressSpace.polled max) :=
  fun _ => ⟨rfl, rfl⟩

theorem released (lkey : LKey) : Views (RdowsConnection.released lkey)
    (AddressSpace.released lkey (.ok ())) := by
  intro d
  refine ⟨?_, rfl⟩
  show _ = (_, { d.space with
    buffers := byLkey MemoryRegionHandle.localBuf (d.conn.localMrs.erase lkey.value) })
  rw [byLkey_erase]
  rfl

/-- A copy into a local region. -/
theorem copyToLocalMr (lkey : LKey) (start : ℕ) (data : Bytes) :
    Views (RdowsConnection.copyToLocalMr lkey start data)
      (AddressSpace.store lkey start data) := by
  intro d
  rw [AddressSpace.store, Method.run_bind_of_ok (Method.run_get _), load_space,
    RdowsConnection.run_copyToLocalMr]
  rcases read : d.conn.readLocalMr lkey start data.length with bytes | e | p
  · obtain ⟨⟨mr, found, -⟩, -⟩ := RdowsConnection.readLocalMr_eq_ok read
    have here : d.space.buffers lkey = some mr.localBuf := congrArg (Option.map _) found
    rw [Method.run_bind_of_ok (Method.run_lift _ _), Method.run_modify, here]
    dsimp only
    rw [RdowsConnection.withBytes, found]
    refine ⟨?_, rfl⟩
    show _ = (_, { d.space with
      buffers := byLkey MemoryRegionHandle.localBuf (d.conn.localMrs.insert lkey.value
        { mr with localBuf := splice mr.localBuf start data }) })
    rw [byLkey_insert]
    rfl
  · exact ⟨rfl, rfl⟩
  · exact ⟨rfl, rfl⟩

theorem completes {wrid : UInt64} {opcode : Opcode} {byteCount : α → UInt32}
    {deliver : α → Local VerbValue} {deliver' : α → Operation VerbValue}
    (delivers : ∀ a, Views (deliver a) (deliver' a)) (result : Except ErrorCode α) :
    Views (RdowsConnection.completes wrid opcode byteCount deliver result)
      (AddressSpace.completes wrid opcode byteCount deliver' result) := by
  rcases result with code | a
  · exact (pushCqe _ _ _ _).bind fun _ => throw _
  · exact (delivers a).bind fun _ => (pushCqe _ _ _ _).bind fun _ => pure _

end Views

/-- The store satisfies its invariant, its regions are all of the connection's protection domain,
and every buffer of the client belongs to a region. -/
structure Sound (d : Direct) : Prop where
  inv : d.backend.memoryStore.StoreInv
  domain : d.backend.memoryStore.InDomain d.conn.pd
  linked : d.space.Linked

/-- The server's part of a call is an access to the memory: the same result, and a store that shows
the memory after it. -/
def Serves (d : Direct) (x : Method Backend ErrorCode α) (access : Access α) : Prop :=
  ∃ result backend, x.run d.backend = (.ofExcept result, backend) ∧
    access d.space = (result, { d with backend }.space) ∧
    backend.memoryStore.StoreInv ∧ backend.memoryStore.InDomain d.conn.pd

/-- What a call comes to in the memory: the same result, and a sound state that shows the new
memory. -/
def Shows (out : Outcome RdowsError VerbValue × Direct)
    (out' : Outcome RdowsError VerbValue × AddressSpace) : Prop :=
  out' = (out.1, out.2.space) ∧ out.2.backend.memoryStore.StoreInv ∧
    out.2.backend.memoryStore.InDomain out.2.conn.pd

theorem Sound.request (sound : d.Sound) (frames : ℕ) {x : Method Backend ErrorCode α}
    {access : Access α} {finish : Except ErrorCode α → Local VerbValue}
    {finish' : Except ErrorCode α → Operation VerbValue} (serves : d.Serves x access)
    (views : ∀ result, Views (finish result) (finish' result)) :
    Shows (d.request frames x finish)
      (AddressSpace.request (d.transport.lost d.calls) d.space access finish') := by
  rw [Direct.request, AddressSpace.request]
  by_cases present : d.running = true
  · obtain ⟨result, backend, ran, accessed, inv, domain⟩ := serves
    obtain ⟨same, kept⟩ := views result { d with backend }
    rw [if_pos present, if_pos (by exact present), ran, accessed]
    rcases result with code | a
    · exact ⟨same, inv, by rw [← kept] at domain; exact domain⟩
    · exact ⟨same, inv, by rw [← kept] at domain; exact domain⟩
  · rw [if_neg present, if_neg (by exact present)]
    exact ⟨rfl, sound.inv, sound.domain⟩

theorem Sound.working (sound : d.Sound) {gathered : Outcome RdowsError α}
    {next : α → Outcome RdowsError VerbValue × Direct}
    {next' : α → Outcome RdowsError VerbValue × AddressSpace}
    (shows : ∀ a, Shows (next a) (next' a)) :
    Shows (d.working gathered next) (d.space.working gathered next') := by
  unfold Direct.working AddressSpace.working
  by_cases full : d.conn.cq.isFull = true
  · rw [if_pos full, if_pos (by exact full)]
    exact ⟨rfl, sound.inv, sound.domain⟩
  · rw [if_neg full, if_neg (by exact full)]
    rcases gathered with a | e | p
    · exact shows a
    · exact ⟨rfl, sound.inv, sound.domain⟩
    · exact ⟨rfl, sound.inv, sound.domain⟩

/-! ### Accesses -/

section Accesses

variable (sound : d.Sound)
include sound

theorem Sound.receive : d.Serves Backend.receive AddressSpace.receive := by
  by_cases empty : d.backend.recvQueueDepth = 0
  · refine ⟨.error .errRnr, d.backend, ?_, ?_, sound.inv, sound.domain⟩
    · rw [Backend.receive, Method.run_bind_of_ok (Method.run_get _), Method.run_ite, if_pos empty]
      rfl
    · exact if_pos (congrArg UInt32.toNat empty)
  · have posted : d.backend.recvQueueDepth.toNat ≠ 0 := fun h => empty (UInt32.toNat_inj.mp h)
    refine ⟨.ok (), { d.backend with recvQueueDepth := d.backend.recvQueueDepth - 1 }, ?_, ?_,
      sound.inv, sound.domain⟩
    · rw [Backend.receive, Method.run_bind_of_ok (Method.run_get _), Method.run_ite, if_neg empty]
      rfl
    · have fewer : (d.backend.recvQueueDepth - 1).toNat = d.backend.recvQueueDepth.toNat - 1 :=
        toNat_sub32 (Nat.one_le_iff_ne_zero.mpr posted)
      refine Eq.trans (if_neg (by exact posted)) ?_
      show _ = (_, { d.space with receives := (d.backend.recvQueueDepth - 1).toNat })
      rw [fewer]
      rfl

/-- An access that writes, if at all, into the region of its R_Key. -/
theorem Sound.overwrite {x : Method MemoryStore ErrorCode α} {result : Except ErrorCode α}
    {remote : Memory} {rkey : RKey} {right : AccessFlags}
    (returned : (x.run d.backend.memoryStore).1 = .ofExcept result)
    (memory : (x.run d.backend.memoryStore).2.toMemory = remote)
    (writes : d.backend.memoryStore.WritesUnder rkey right (x.run d.backend.memoryStore).2) :
    d.Serves (Backend.onStore x) fun m => (result, { m with remote }) := by
  refine ⟨result, { d.backend with memoryStore := (x.run d.backend.memoryStore).2 }, ?_, ?_,
    sound.inv.moves (.overwrite writes.overwrites), writes.inDomain sound.domain⟩
  · rw [Backend.run_onStore, returned]
  · exact congrArg (Prod.mk result)
      (space_withStore memory writes.byLkey_rkey writes.allowance_eq).symm

theorem Sound.write (rkey : RKey) (remoteVa : UInt64) (data : Bytes) :
    d.Serves (Backend.onStore (MemoryStore.writeRegion rkey remoteVa data))
      (AddressSpace.write rkey remoteVa.toNat data) := by
  obtain ⟨returned, memory⟩ := MemoryStore.writeRegion_refines sound.inv rkey remoteVa data
  exact sound.overwrite returned memory (MemoryStore.writeRegion_writesUnder ..)

theorem Sound.atomic (rkey : RKey) (remoteVa : UInt64) (atomicType : UInt8)
    (operand1 operand2 : UInt64) :
    d.Serves (Backend.onStore (MemoryStore.atomicOp rkey remoteVa atomicType operand1 operand2))
      (AddressSpace.atomic rkey remoteVa.toNat atomicType operand1 operand2) := by
  obtain ⟨returned, memory⟩ :=
    MemoryStore.atomicOp_refines sound.inv rkey remoteVa atomicType operand1 operand2
  exact sound.overwrite returned memory (MemoryStore.atomicOp_writesUnder ..)

theorem Sound.read (rkey : RKey) (remoteVa readLen : UInt64) :
    d.Serves (Backend.read rkey remoteVa readLen)
      (AddressSpace.read rkey remoteVa.toNat readLen.toNat) := by
  by_cases none : d.backend.maxOutstandingReads = 0
  · refine ⟨.error .errRnr, d.backend, ?_, ?_, sound.inv, sound.domain⟩
    · rw [Backend.read, Method.run_bind_of_ok (Method.run_get _), Method.run_ite, if_pos none]
      rfl
    · exact if_pos (congrArg UInt32.toNat none)
  · refine ⟨d.space.remote.read rkey remoteVa.toNat readLen.toNat, d.backend, ?_, ?_, sound.inv,
      sound.domain⟩
    · rw [Backend.read, Method.run_bind_of_ok (Method.run_get _), Method.run_ite, if_neg none,
        MemoryStore.readRegion_refines sound.inv]
      rfl
    · exact if_neg fun h => none (UInt32.toNat_inj.mp h)

theorem Sound.remove (lkey : LKey) :
    d.Serves (Backend.onStore (MemoryStore.deregister d.conn.pd lkey))
      (AddressSpace.remove lkey) := by
  have ends := MemoryStore.deregister_spec d.conn.pd lkey d.backend.memoryStore
  have ran := Backend.run_onStore (MemoryStore.deregister d.conn.pd lkey) d.backend
  generalize (MemoryStore.deregister d.conn.pd lkey).run d.backend.memoryStore = out at ends ran
  cases ends with
  | unknown absent =>
      have unowned : d.space.owner lkey = none := congrArg (Option.map _) absent
      refine ⟨.error .errInvalidLkey, d.backend, ran, ?_, sound.inv, sound.domain⟩
      rw [AddressSpace.remove, unowned]
  | wrongDomain entry found other => exact absurd (sound.domain _ entry found) other
  | underflow entry found same under =>
      exact absurd (sound.inv.covered found) (Nat.not_le.mpr under)
  | removed entry found same covered =>
      have owned : d.space.owner lkey = some entry.rkey := congrArg (Option.map _) found
      refine ⟨.ok (), _, ran, ?_, sound.inv.moves (.remove lkey entry found), ?_⟩
      · rw [AddressSpace.remove, owned]
        exact congrArg (Prod.mk _) (space_withStore (sound.inv.toMemory_withoutRegion found)
          (byLkey_erase lkey) rfl).symm
      · exact AssocMap.forall_erase sound.domain

/-- What the client does alone. -/
theorem Sound.locally {x : Local VerbValue} {y : Operation VerbValue} (views : Views x y) :
    Shows (d.locally x) (y.run d.space) := by
  obtain ⟨same, kept⟩ := views d
  refine ⟨same, sound.inv, ?_⟩
  show d.backend.memoryStore.InDomain (x.run d.conn).2.pd
  rw [kept]
  exact sound.domain

end Accesses

/-! ### Calls -/

section Calls

variable (sound : d.Sound) (readings : Readings)
include sound

/-- A verb other than a registration. -/
theorem Sound.performs {verb : Verb} (other : ∀ accessFlags len, verb ≠ .regMr accessFlags len) :
    ∃ out, AddressSpace.perform (d.transport.lost d.calls) d.space verb = some out ∧
      Shows (d.perform readings verb) out := by
  have nothing {α : Type} (a : α) : Views (Pure.pure VerbValue.unit) (Pure.pure VerbValue.unit) :=
    .pure _
  have word (original : UInt64) : Views (Pure.pure (VerbValue.original original))
      (Pure.pure (VerbValue.original original)) := .pure _
  -- each verb is a request to the server and what is done with its answer, or is local
  cases verb with
  | regMr accessFlags len => exact absurd rfl (other accessFlags len)
  | deregMr lkey =>
      refine ⟨_, rfl, sound.request 1 (sound.remove lkey) ?_⟩
      rintro (code | _)
      · exact .throw _
      · exact .released lkey
  | postSend wrid sgList =>
      refine ⟨_, rfl, ?_⟩
      rw [gather_space]
      exact sound.working fun data => sound.request 2 sound.receive (.completes nothing)
  | rdmaWrite wrid rkey remoteVa sgList =>
      refine ⟨_, rfl, ?_⟩
      rw [gather_space]
      exact sound.working fun data =>
        sound.request 2 (sound.write rkey remoteVa data) (.completes nothing)
  | rdmaRead wrid rkey remoteVa readLen localLkey localVa =>
      exact ⟨_, rfl, sound.working fun _ =>
        sound.request 1 (sound.read rkey remoteVa readLen) (.completes fun data =>
          .bind (.copyToLocalMr localLkey localVa.toNat data) nothing)⟩
  | atomicCas wrid rkey remoteVa compare swap =>
      exact ⟨_, rfl, sound.working fun _ =>
        sound.request 1 (sound.atomic rkey remoteVa _ compare swap) (.completes word)⟩
  | atomicFaa wrid rkey remoteVa addend =>
      exact ⟨_, rfl, sound.working fun _ =>
        sound.request 1 (sound.atomic rkey remoteVa _ addend 0) (.completes word)⟩
  | pollCq max => exact ⟨_, rfl, sound.locally (.pollCq max)⟩
  | writeLocalMr lkey offset data =>
      exact ⟨_, rfl, sound.locally ((Views.copyToLocalMr lkey offset data).mapValue _)⟩
  | readLocalMr lkey offset len =>
      refine ⟨_, rfl, ?_, sound.inv, sound.domain⟩
      rw [load_space]
      rfl

/-- A registration: each way in which it ends has its reason in the memory, be it granted, refused,
or the end of the server. -/
theorem Sound.regMr (accessFlags : AccessFlags) (len : UInt64) :
    d.space.Allows (.regMr accessFlags len) (d.perform readings (.regMr accessFlags len)).1
        (d.perform readings (.regMr accessFlags len)).2.space ∧
      (d.perform readings (.regMr accessFlags len)).2.Sound := by
  have ofTransport := d.transport.lost_ofTransport d.calls
  rw [Direct.perform, Direct.request]
  by_cases present : d.running = true
  swap
  · have gone : AddressSpace.perform (d.transport.lost d.calls) d.space (.regMr accessFlags len)
        = some (.err (d.transport.lost d.calls), d.space) := if_neg present
    rw [if_neg present]
    exact ⟨.performs ofTransport gone, sound⟩
  obtain ⟨count, start, same, fewer⟩ := d.backend.refreshed_eq (readings d.handled).1
  have fewer := UInt32.le_iff_toNat_le.mp fewer
  have regions := sound.inv.count_toMemory
  have bytes := sound.inv.bytes_toMemory
  rw [if_pos present, Backend.run_register, same]
  split_ifs with limited
  · have full : d.space.allowance.rate ≤ d.space.allowance.recent :=
      (UInt32.le_iff_toNat_le.mp limited).trans fewer
    exact ⟨.refuses _ _ _ _ (.rate full) ⟨rfl, rfl, rfl, Nat.le_succ_of_le fewer, Nat.le_refl _,
      Nat.le_succ _⟩, sound.inv, sound.domain, sound.linked⟩
  -- The registration counts from here on, whatever becomes of it.
  have counted : (count + 1).toNat ≤ d.backend.mrRegCount.toNat + 1 := by
    rw [UInt32.toNat_add]
    exact (Nat.mod_le _ _).trans (Nat.succ_le_succ fewer)
  have spent (next : d.backend.memoryStore.nextLkey.toNat + 1 < 2 ^ 32) :
      (d.backend.memoryStore.nextLkey + 1).toNat = d.backend.memoryStore.nextLkey.toNat + 1 := by
    rw [UInt32.toNat_add]
    exact Nat.mod_eq_of_lt next
  rw [Backend.run_onStore]
  dsimp only
  have ends := MemoryStore.register_spec (readings d.handled).2 d.conn.pd accessFlags len
    d.backend.memoryStore
  have small {keys : LKey × RKey} {t : MemoryStore} :
      (MemoryStore.register (readings d.handled).2 d.conn.pd accessFlags len).run
        d.backend.memoryStore = (.ok keys, t) → len.toNat ≤ isizeMax :=
    MemoryStore.small_of_register
  generalize (MemoryStore.register (readings d.handled).2 d.conn.pd accessFlags len).run
    d.backend.memoryStore = out at ends small ⊢
  cases ends with
  | regionLimit full =>
      rw [← regions] at full
      exact ⟨.refuses _ _ _ _ (.regions full) ⟨rfl, rfl, rfl, counted, Nat.le_refl _,
        Nat.le_succ _⟩, sound.inv, sound.domain, sound.linked⟩
  | totalOverflow beyond =>
      rw [← bytes] at beyond
      exact ⟨.loses _ _ _ (.bytes beyond) ofTransport, sound.inv, sound.domain, sound.linked⟩
  | overQuota beyond =>
      rw [← bytes] at beyond
      exact ⟨.refuses _ _ _ _ (.bytes beyond) ⟨rfl, rfl, rfl, counted, Nat.le_refl _,
        Nat.le_succ _⟩, sound.inv, sound.domain, sound.linked⟩
  | lkeyOverflow beyond =>
      exact ⟨.loses _ _ _ (.lkeys beyond) ofTransport, sound.inv, sound.domain, sound.linked⟩
  | noFreshKey next =>
      exact ⟨.refuses _ _ _ _ .draws ⟨rfl, rfl, rfl, counted,
        (Nat.le_succ _).trans (spent next).ge, (spent next).le⟩,
        sound.inv.moves (.spendKeys _ next (Finset.Subset.refl _)), sound.domain, sound.linked⟩
  | allocation val next fresh tooLarge =>
      exact ⟨.loses _ _ _ (.size tooLarge) ofTransport, sound.inv, sound.domain, sound.linked⟩
  | registered val room fits quota next nonzero fresh =>
      have unowned : d.space.owner ⟨d.backend.memoryStore.nextLkey⟩ = none :=
        congrArg (Option.map _) sound.inv.nextLkey_free
      have unused := sound.linked _ unowned
      have kept := sound.linked.withRegion accessFlags len.toNat
        ⟨d.backend.memoryStore.nextLkey⟩ ⟨val⟩
      have remote := sound.inv.toMemory_withRegion d.conn.pd accessFlags len val
      have view := space_withRegion (d.handled + 1) (count + 1) start remote
      have keys := sound.inv.moves (.add d.conn.pd accessFlags len val room fits quota next nonzero
        fresh)
      rw [← regions] at room
      rw [← bytes] at quota
      dsimp only [conclude]
      rw [RdowsConnection.run_granted (small rfl)]
      refine ⟨?_, keys, AssocMap.forall_insert rfl sound.domain, ?_⟩
      · refine Eq.mpr (congrArg _ view) ?_
        exact .registers accessFlags len ⟨d.backend.memoryStore.nextLkey⟩ ⟨val⟩ _
          (sound.inv.toMemory_unused fresh) unowned unused room quota ⟨rfl, rfl, rfl, counted,
          (Nat.le_succ _).trans (spent next).ge, (spent next).le⟩
      · exact Eq.mpr (congrArg Linked view) kept

/-- The verbs. -/
theorem Sound.perform (verb : Verb) :
    d.space.Allows verb (d.perform readings verb).1 (d.perform readings verb).2.space ∧
      (d.perform readings verb).2.Sound := by
  by_cases registration : ∃ accessFlags len, verb = .regMr accessFlags len
  · obtain ⟨accessFlags, len, rfl⟩ := registration
    exact sound.regMr readings accessFlags len
  · obtain ⟨out, performs, same, inv, domain⟩ :=
      sound.performs readings fun accessFlags len h => registration ⟨accessFlags, len, h⟩
    have linked := sound.linked.perform performs
    rw [same] at performs linked
    exact ⟨.performs (d.transport.lost_ofTransport d.calls) performs, inv, domain, linked⟩

/-- **One call** is allowed by the memory that the state shows, and leads to a sound state again. -/
theorem Sound.call (verb : Verb) :
    d.space.Allows verb (d.call readings verb).1 (d.call readings verb).2.space ∧
      (d.call readings verb).2.Sound :=
  Sound.perform (d := { d with calls := d.calls + 1 }) ⟨sound.inv, sound.domain, sound.linked⟩
    readings verb

end Calls

theorem sound_start (transport : Transport) (config : ServerConfig) (now : ℕ) (sessionId : UInt32)
    (cqCapacity : ℕ) : (start transport config now sessionId cqCapacity).Sound where
  inv := MemoryStore.storeInv_new _ _
  domain l e found := by cases found
  linked _ _ := rfl

end Direct

/-! ### Whole programs -/

/-- The memory after `connect`. -/
def AddressSpace.start (config : ServerConfig) (sessionId : UInt32) (cqCapacity : ℕ) :
    AddressSpace where
  remote := Memory.empty
  owner _ := none
  buffers _ := none
  queue := .new cqCapacity
  sessionId
  receives := config.recvQueueDepth.toNat
  reads := config.maxOutstandingReads.toNat
  allowance :=
    { regions := config.maxRegionsPerSession
      bytes := config.maxTotalBytesPerSession.toNat
      rate := config.mrRegRateLimit.toNat
      recent := 0
      nextLkey := 1 }
  serving := true

/-- The deployment has come to rest with what a run on an address space gives: the result, the
client's buffers and completions, and the server's regions. -/
def Deployment.Leaves {α : Type} (final : Deployment α) (result : Except Panic α)
    (m : AddressSpace) : Prop :=
  final.net.server.running = m.serving ∧
    (m.serving = true → final.net.server.session.memoryStore.toMemory = m.remote) ∧
    match result with
    | .ok value => final.program = .done value ∧ ∃ conn, final.net.client = .idle conn ∧
        byLkey MemoryRegionHandle.localBuf conn.localMrs = m.buffers ∧ conn.cq = m.queue
    | .error _ => final.net.client = .crashed

end Rdows
