import Mathlib.Data.Finset.Card
import Rdows.Network.Direct
import Rdows.Server.StoreRefinement

/-!
# Registering memory

A program begins by registering its regions.  `Provisioned` describes the two sides after a number
of registrations since the handshake, and `Provisioned.regMr` is one more of them: within the limits
of the server's configuration, and if the generator does not run out of fresh keys, `reg_mr` returns
a handle and both sides hold a new region of zeros.

## Fresh keys

The server draws R_Keys at random, and at most a thousand times for one key.  It finds a fresh one
if it draws more different keys than have been used (`drawsFresh_of_card`), which is the form in
which a program can ask for it: it knows the number of its registrations, not the keys.  `drawable`
is the set of the keys that a generator can come up with in its thousand attempts.

## Limits

Three limits of the configuration apply, the number of regions, their bytes together and the
registrations in one window of the rate limit, and two of the machine, the size of an allocation and
the L_Keys that a 32-bit counter can give out.  `Provisioned` carries what has been used of each, so
the conditions on a program are sums over its registrations.

`Granted` is all that a caller needs to know afterwards: the handle, the new region at the server
and the new buffer at the client, and that everything else is as before.
-/

namespace Rdows

open Rust

/-- The keys that `generate_rkey` can draw in its thousand attempts, for one registration. -/
def MemoryStore.drawable (draws : ℕ → UInt32) : Finset UInt32 :=
  ((Finset.range 1000).image draws).erase 0

/-- More keys can be drawn than have been used, so that one of the thousand is fresh. -/
theorem MemoryStore.drawsFresh_of_card {s : MemoryStore} (draws : ℕ → UInt32)
    (more : s.usedRkeys.card < (drawable draws).card) : s.DrawsFresh draws := by
  obtain ⟨key, drawn, fresh⟩ := Finset.exists_mem_notMem_of_card_lt_card more
  obtain ⟨nonzero, drawn⟩ := Finset.mem_erase.mp drawn
  obtain ⟨i, below, rfl⟩ := Finset.mem_image.mp drawn
  exact ⟨i, Finset.mem_range.mp below, nonzero, fresh⟩

/-- A generator that counts has more than one key to draw, which is enough for a program with two
regions. -/
theorem MemoryStore.one_lt_card_drawable :
    1 < (drawable fun i => UInt32.ofNat (i + 1)).card := by
  have drawn : ({1, 2} : Finset UInt32) ⊆ drawable fun i => UInt32.ofNat (i + 1) := by
    intro key mem
    rw [Finset.mem_insert, Finset.mem_singleton] at mem
    rcases mem with rfl | rfl
    · exact Finset.mem_erase.mpr ⟨by decide,
        Finset.mem_image.mpr ⟨0, Finset.mem_range.mpr (by decide), rfl⟩⟩
    · exact Finset.mem_erase.mpr ⟨by decide,
        Finset.mem_image.mpr ⟨1, Finset.mem_range.mpr (by decide), rfl⟩⟩
  exact Nat.lt_of_lt_of_le Nat.one_lt_two (Finset.card_le_card drawn)

namespace Direct

/-- The two sides after `k` registrations of together `total` bytes, and nothing else: the counters
of the server are determined by them. -/
structure Provisioned (config : ServerConfig) (k total : ℕ) (d : Direct) : Prop where
  running : d.running = true
  reads : d.backend.maxOutstandingReads = config.maxOutstandingReads
  rateLimit : d.backend.mrRegRateLimit = config.mrRegRateLimit
  count : d.backend.mrRegCount.toNat ≤ k
  inv : d.backend.memoryStore.StoreInv
  regions : AssocMap.size d.backend.memoryStore.regions = k
  bytes : d.backend.memoryStore.totalRegisteredBytes.toNat = total
  lkeys : d.backend.memoryStore.nextLkey.toNat = k + 1
  rkeys : d.backend.memoryStore.usedRkeys.card = k
  maxRegions : d.backend.memoryStore.maxRegions = config.maxRegionsPerSession
  maxTotal : d.backend.memoryStore.maxTotalBytes = config.maxTotalBytesPerSession
  handled : d.handled = k

theorem provisioned_start (transport : Transport) (config : ServerConfig) (now : ℕ)
    (sessionId : UInt32) (cqCapacity : ℕ) :
    Provisioned config 0 0 (start transport config now sessionId cqCapacity) where
  running := rfl
  reads := rfl
  rateLimit := rfl
  count := Nat.le_refl 0
  inv := MemoryStore.storeInv_new _ _
  regions := rfl
  bytes := rfl
  lkeys := rfl
  rkeys := rfl
  maxRegions := rfl
  maxTotal := rfl
  handled := rfl

/-- What a registration that returned `handle` did on the two sides.  The other regions and buffers,
the queue and the receives are kept. -/
structure Granted (d d' : Direct) (accessFlags : AccessFlags) (len : UInt64)
    (handle : MemoryRegionHandle) : Prop where
  buffer : handle.localBuf = List.replicate len.toNat 0
  localMrs : d'.conn.localMrs = d.conn.localMrs.insert handle.lkey.value handle
  queue : d'.conn.cq = d.conn.cq
  session : d'.conn.sessionId = d.conn.sessionId
  transport : d'.transport = d.transport
  free : d.backend.memoryStore.toMemory handle.rkey = none
  memory : d'.backend.memoryStore.toMemory = d.backend.memoryStore.toMemory.set
    handle.rkey (some ⟨accessFlags, List.replicate len.toNat 0⟩)

/-- **`reg_mr` within the limits** is granted.  Each hypothesis is one of the limits: the
allocation, the L_Keys, the regions and bytes of the configuration, the rate, and a fresh R_Key. -/
theorem Provisioned.regMr {config : ServerConfig} {k total : ℕ} {d : Direct}
    (h : Provisioned config k total d) (readings : Readings) (accessFlags : AccessFlags)
    (len : UInt64) (small : len.toNat ≤ isizeMax) (few : k + 2 < 2 ^ 32)
    (room : k < config.maxRegionsPerSession) (rate : k < config.mrRegRateLimit.toNat)
    (quota : total + len.toNat ≤ config.maxTotalBytesPerSession.toNat)
    (fresh : k < (MemoryStore.drawable (readings k).2).card) :
    ∃ handle d', d.call readings (.regMr accessFlags len) = (.ok (.handle handle), d') ∧
      Provisioned config (k + 1) (total + len.toNat) d' ∧ Granted d d' accessFlags len handle := by
  have within : d.backend.memoryStore.totalRegisteredBytes.toNat + len.toNat
      ≤ d.backend.memoryStore.maxTotalBytes.toNat := by
    rw [h.bytes, h.maxTotal]
    exact quota
  -- all limits leave room, and one of the draws was not used before
  obtain ⟨val, run⟩ := MemoryStore.register_run_of_fresh d.conn.pd accessFlags
    (by rw [h.regions, h.maxRegions]; exact room)
    (within.trans_lt (UInt64.toNat_lt _)) within (by rw [h.lkeys]; exact few)
    (MemoryStore.drawsFresh_of_card (readings d.handled).2
      (by rw [h.rkeys, h.handled]; exact fresh))
  rw [if_pos small] at run
  have unused : val ∉ d.backend.memoryStore.usedRkeys := by
    have ends := MemoryStore.register_spec (readings d.handled).2 d.conn.pd accessFlags len
      d.backend.memoryStore
    rw [run] at ends
    cases ends
    assumption
  -- the window may begin anew, which only lowers the count
  obtain ⟨count, start, refreshed, fewer⟩ := d.backend.refreshed_eq (readings d.handled).1
  have counted : count.toNat ≤ k := (UInt32.le_iff_toNat_le.mp fewer).trans h.count
  have below : (d.backend.refreshed (readings d.handled).1).mrRegCount
      < d.backend.mrRegRateLimit := by
    rw [refreshed, h.rateLimit, UInt32.lt_iff_toNat_lt]
    exact Nat.lt_of_le_of_lt counted rate
  have called := call_regMr h.running below small run
  rw [refreshed] at called
  refine ⟨_, _, called, ?_, ?_⟩
  · have stored : (d.backend.memoryStore.withRegion d.conn.pd accessFlags len val).StoreInv := by
      have kept := h.inv.step (.register (readings d.handled).2 d.conn.pd accessFlags len)
      rw [MemoryStore.step, run] at kept
      exact kept
    have absent : d.backend.memoryStore.regions.lookup d.backend.memoryStore.nextLkey = none :=
      h.inv.nextLkey_free
    exact {
      running := h.running
      reads := h.reads
      rateLimit := h.rateLimit
      count := by
        show (count + 1).toNat ≤ k + 1
        rw [toNat_add32 (show count.toNat + 1 < 2 ^ 32 by omega)]
        exact Nat.succ_le_succ counted
      inv := stored
      regions := by
        show AssocMap.size (d.backend.memoryStore.regions.insert _ _) = k + 1
        rw [AssocMap.size_insert_of_fresh _ absent, h.regions, Nat.add_comm]
      bytes := by
        show (d.backend.memoryStore.totalRegisteredBytes + len).toNat = _
        rw [toNat_add64 (within.trans_lt (UInt64.toNat_lt _)), h.bytes]
      lkeys := by
        show (d.backend.memoryStore.nextLkey + 1).toNat = k + 1 + 1
        rw [toNat_add32 (by rw [h.lkeys]; exact few), h.lkeys]
        rfl
      rkeys := by
        show (insert val d.backend.memoryStore.usedRkeys).card = k + 1
        rw [Finset.card_insert_of_notMem unused, h.rkeys]
      maxRegions := h.maxRegions
      maxTotal := h.maxTotal
      handled := congrArg (· + 1) h.handled }
  · exact {
      buffer := rfl
      localMrs := rfl
      queue := rfl
      session := rfl
      transport := rfl
      free := h.inv.toMemory_unused unused
      memory := h.inv.toMemory_withRegion _ _ _ _ }

end Direct

end Rdows
