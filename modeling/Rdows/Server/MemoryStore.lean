import Mathlib.Data.Finset.Insert
import Rdows.Core.Message
import Rdows.Lib.AssocMap
import Rdows.Lib.Run

/-!
# The server's memory store

One session's registered memory regions (`memory_store.rs`).  Regions are kept under their L_Key; a
second map takes an R_Key to the L_Key of its region; the set of R_Keys ever handed out only grows.

The operating system's random source is the parameter `draws` of `register`: the `i`-th value drawn
during that call.  Every statement below is for all draws.

## The operations and what is known of them

* `register`, `deregister`, `validateRkey`, `writeRegion`, `readRegion` and `atomicOp` follow the
  source line by line; an early return keeps the updates made before it.
* `Registers` and `Deregisters` list every way the two mutators of the key maps can end
  (`register_spec`, `deregister_spec`).  `writeRegion_run`, `readRegion_eq` and `atomicOp_run`
  execute the three accesses for regions of a size that fits in memory.  Nothing later unfolds the
  operations themselves.
* `StoreOp` and `step` put the operations together as one machine.

## Sizes

A length on the wire is a `u64`, a length of a `Vec` is at most `isize::MAX`, and the total of all
regions is a `u64` that is added up without a check of its own.  So a registration can fail in three
ways that have nothing to do with keys: beyond the quota it is refused, beyond `2 ^ 64` in total it
panics, and with a region that no `Vec` can hold it panics as well.  The accesses in turn compute
the end of a range in `usize`, with `checked_add`; for a region that exists the end is always an
address (`inRange_iff_of_small`), and this is why they never panic.
-/

namespace Rdows

open Rust

/-- One registered region: its domain, its two keys, its rights and its bytes. -/
structure MemoryRegionEntry where
  pd : ProtectionDomain
  lkey : LKey
  rkey : RKey
  accessFlags : AccessFlags
  data : Bytes
  deriving DecidableEq, Repr

/-- The regions of one session and their keys, with the limits that the session was configured
with. -/
structure MemoryStore where
  regions : AList fun _ : UInt32 => MemoryRegionEntry
  rkeyToLkey : AList fun _ : UInt32 => UInt32
  usedRkeys : Finset UInt32
  nextLkey : UInt32
  totalRegisteredBytes : UInt64
  maxRegions : ℕ
  maxTotalBytes : UInt64

namespace MemoryStore

/-- `MemoryStore::new`: no region and no key.  L_Keys are given out from 1 on. -/
def new (maxRegions : ℕ) (maxTotalBytes : UInt64) : MemoryStore where
  regions := ∅
  rkeyToLkey := ∅
  usedRkeys := ∅
  nextLkey := 1
  totalRegisteredBytes := 0
  maxRegions := maxRegions
  maxTotalBytes := maxTotalBytes

/-! ### Registration -/

/-- The loop of `generate_rkey` with `left` iterations to go, at the `i`-th draw. -/
def generateRkeyFrom (draws : ℕ → UInt32) (i : ℕ) : ℕ → Method MemoryStore ErrorCode RKey
  | 0 => Method.throw .errInternal
  | left + 1 => do
      let val := draws i
      let s ← Method.get
      if val ≠ 0 ∧ val ∉ s.usedRkeys then do
        Method.modify fun s => { s with usedRkeys := insert val s.usedRkeys }
        return ⟨val⟩
      else generateRkeyFrom draws (i + 1) left

/-- `generate_rkey`: up to a thousand draws, and an error if none of them can be used. -/
def generateRkey (draws : ℕ → UInt32) : Method MemoryStore ErrorCode RKey :=
  generateRkeyFrom draws 0 1000

/-- `register`.  The limits are checked before anything changes.  The L_Key is taken before the
R_Key is drawn, and what was taken is spent even if the call does not return a region. -/
def register (draws : ℕ → UInt32) (pd : ProtectionDomain) (accessFlags : AccessFlags)
    (regionLen : UInt64) : Method MemoryStore ErrorCode (LKey × RKey) := do
  let s ← Method.get
  if s.maxRegions ≤ AssocMap.size s.regions then Method.throw .errInternal
  else do
    let wanted ← Method.lift
      (.orPanic .arithmeticOverflow (checkedAdd64 s.totalRegisteredBytes regionLen))
    if s.maxTotalBytes < wanted then Method.throw .errBounds
    else do
      let lkey : LKey := ⟨s.nextLkey⟩
      let next ← Method.lift (.orPanic .arithmeticOverflow (checkedAdd32 s.nextLkey 1))
      Method.modify fun s => { s with nextLkey := next }
      let rkey ← generateRkey draws
      let data ← Method.lift (zeroed regionLen.toNat)
      let entry : MemoryRegionEntry := { pd, lkey, rkey, accessFlags, data }
      Method.modify fun s => { s with
        rkeyToLkey := s.rkeyToLkey.insert rkey.value lkey.value
        regions := s.regions.insert lkey.value entry }
      let s ← Method.get
      let total ← Method.lift
        (.orPanic .arithmeticOverflow (checkedAdd64 s.totalRegisteredBytes regionLen))
      Method.modify fun s => { s with totalRegisteredBytes := total }
      return (lkey, rkey)

/-- `deregister`.  The key stays in `usedRkeys`, so that it is never given out again. -/
def deregister (pd : ProtectionDomain) (lkey : LKey) : Method MemoryStore ErrorCode Unit := do
  let s ← Method.get
  let entry ← Method.lift (.okOr .errInvalidLkey (s.regions.lookup lkey.value))
  if entry.pd ≠ pd then Method.throw .errInvalidPd
  else do
    let rkey := entry.rkey
    let regionLen := UInt64.ofNat entry.data.length
    Method.modify fun s => { s with
      rkeyToLkey := s.rkeyToLkey.erase rkey.value
      regions := s.regions.erase lkey.value }
    let s ← Method.get
    let total ← Method.lift
      (.orPanic .arithmeticOverflow (checkedSub64 s.totalRegisteredBytes regionLen))
    Method.modify fun s => { s with totalRegisteredBytes := total }

/-! ### Access -/

/-- The opening of every access: R_Key to L_Key, L_Key to region, then the access
right.  Gives the region together with the key it is stored under. -/
def entryFor (s : MemoryStore) (rkey : RKey) (requiredAccess : AccessFlags) :
    Outcome ErrorCode (UInt32 × MemoryRegionEntry) := do
  let lkeyVal ← Outcome.okOr .errInvalidMkey (s.rkeyToLkey.lookup rkey.value)
  let entry ← Outcome.okOr .errInvalidMkey (s.regions.lookup lkeyVal)
  if ¬ entry.accessFlags.contains requiredAccess then .err .errAccessDenied
  else .ok (lkeyVal, entry)

/-- `validate_rkey`: the region of an R_Key, if it grants the access. -/
def validateRkey (s : MemoryStore) (rkey : RKey) (requiredAccess : AccessFlags) :
    Outcome ErrorCode MemoryRegionEntry := do
  let (_, entry) ← s.entryFor rkey requiredAccess
  return entry

/-- Write through the mutable reference to the region stored under `lkeyVal`; its keys and rights
stay. -/
def setData (s : MemoryStore) (lkeyVal : UInt32) (entry : MemoryRegionEntry) (data : Bytes) :
    MemoryStore :=
  { s with regions := s.regions.insert lkeyVal { entry with data } }

/-- `write_region`: the right, then the range, then the bytes. -/
def writeRegion (rkey : RKey) (offset : UInt64) (data : Bytes) :
    Method MemoryStore ErrorCode Unit := do
  let s ← Method.get
  let (lkeyVal, entry) ← Method.lift (s.entryFor rkey .remoteWrite)
  let start := offset.toNat
  let stop ← Method.lift (.okOr .errBounds (checkedAddUsize start data.length))
  if entry.data.length < stop then Method.throw .errBounds
  else do
    let written ← Method.lift (copyFromSlice entry.data start stop data)
    Method.modify fun s => s.setData lkeyVal entry written

/-- `read_region`, which does not change the store. -/
def readRegion (s : MemoryStore) (rkey : RKey) (offset len : UInt64) :
    Outcome ErrorCode Bytes := do
  let (_, entry) ← s.entryFor rkey .remoteRead
  let start := offset.toNat
  let stop ← Outcome.okOr .errBounds (checkedAddUsize start len.toNat)
  if entry.data.length < stop then .err .errBounds
  else slice entry.data start stop

/-- The value an atomic operation writes over `original`; no value for an unknown type. -/
def atomicValue (atomicType : UInt8) (original operand1 operand2 : UInt64) : Option UInt64 :=
  if atomicType = atomicTypeCas then
    some (if original = operand1 then operand2 else original)
  else if atomicType = atomicTypeFaa then some (original + operand1)
  else none

/-- `atomic_op`: the right, the alignment, the range and last the type, so an unknown type is
refused only if all else is in order. -/
def atomicOp (rkey : RKey) (remoteVa : UInt64) (atomicType : UInt8)
    (operand1 operand2 : UInt64) : Method MemoryStore ErrorCode UInt64 := do
  let s ← Method.get
  let (lkeyVal, entry) ← Method.lift (s.entryFor rkey .remoteAtomic)
  if remoteVa.toNat % 8 ≠ 0 then Method.throw .errAlignment
  else do
    let start := remoteVa.toNat
    let stop ← Method.lift (.okOr .errBounds (checkedAddUsize start 8))
    if entry.data.length < stop then Method.throw .errBounds
    else do
      let word ← Method.lift (slice entry.data start stop)
      let original := UInt64.ofNat (ofBE word)
      let newValue ← Method.lift
        (.okOr .errUnknownOpcode (atomicValue atomicType original operand1 operand2))
      let written ← Method.lift (copyFromSlice entry.data start stop (putU64 newValue))
      Method.modify fun s => s.setData lkeyVal entry written
      return original

/-! ### What the operations can do -/

section Registration

variable {s : MemoryStore} {draws : ℕ → UInt32} {pd : ProtectionDomain} {flags : AccessFlags}
  {len : UInt64} {lkey : LKey}

/-- The loop from any draw on, with any number of iterations left; by induction on that number. -/
theorem generateRkeyFrom_spec (draws : ℕ → UInt32) (s : MemoryStore) (i left : ℕ) :
    (generateRkeyFrom draws i left).run s = (.err .errInternal, s) ∨
    ∃ val, val ≠ 0 ∧ val ∉ s.usedRkeys ∧ (generateRkeyFrom draws i left).run s
      = (.ok ⟨val⟩, { s with usedRkeys := insert val s.usedRkeys }) := by
  -- over the iterations that are left; a draw that cannot be used only moves on to the next one
  induction left generalizing i with
  | zero => exact .inl rfl
  | succ left ih =>
      by_cases fresh : draws i ≠ 0 ∧ draws i ∉ s.usedRkeys
      · refine .inr ⟨draws i, fresh.1, fresh.2, ?_⟩
        simp only [generateRkeyFrom, Method.run_bind, Method.run_get, Method.run_ite]
        rw [if_pos fresh]
        rfl
      · simp only [generateRkeyFrom, Method.run_bind, Method.run_get, Method.run_ite]
        rw [if_neg fresh]
        exact ih (i + 1)

/-- **The loop of `generate_rkey`.**  It gives up and changes nothing, or it returns a
key that is nonzero and was never used, and marks it as used. -/
theorem generateRkey_spec (draws : ℕ → UInt32) (s : MemoryStore) :
    (generateRkey draws).run s = (.err .errInternal, s) ∨
    ∃ val, val ≠ 0 ∧ val ∉ s.usedRkeys ∧ (generateRkey draws).run s
      = (.ok ⟨val⟩, { s with usedRkeys := insert val s.usedRkeys }) :=
  generateRkeyFrom_spec draws s 0 1000

/-- The store after a successful registration under the R_Key `val`. -/
def withRegion (s : MemoryStore) (pd : ProtectionDomain) (flags : AccessFlags) (len : UInt64)
    (val : UInt32) : MemoryStore :=
  { s with
    regions := s.regions.insert s.nextLkey
      { pd, lkey := ⟨s.nextLkey⟩, rkey := ⟨val⟩, accessFlags := flags
        data := List.replicate len.toNat 0 }
    rkeyToLkey := s.rkeyToLkey.insert val s.nextLkey
    usedRkeys := insert val s.usedRkeys
    nextLkey := s.nextLkey + 1
    totalRegisteredBytes := s.totalRegisteredBytes + len }

/-- Every way a call of `register` can end. -/
inductive Registers (s : MemoryStore) (pd : ProtectionDomain) (flags : AccessFlags)
    (len : UInt64) : Outcome ErrorCode (LKey × RKey) × MemoryStore → Prop
  | regionLimit (full : s.maxRegions ≤ AssocMap.size s.regions) :
      Registers s pd flags len (.err .errInternal, s)
  | totalOverflow (beyond : 2 ^ 64 ≤ s.totalRegisteredBytes.toNat + len.toNat) :
      Registers s pd flags len (.panic .arithmeticOverflow, s)
  | overQuota (beyond : s.maxTotalBytes.toNat < s.totalRegisteredBytes.toNat + len.toNat) :
      Registers s pd flags len (.err .errBounds, s)
  | lkeyOverflow (beyond : 2 ^ 32 ≤ s.nextLkey.toNat + 1) :
      Registers s pd flags len (.panic .arithmeticOverflow, s)
  | noFreshKey (next : s.nextLkey.toNat + 1 < 2 ^ 32) :
      Registers s pd flags len
        (.err .errInternal, { s with nextLkey := s.nextLkey + 1 })
  | allocation (val : UInt32) (next : s.nextLkey.toNat + 1 < 2 ^ 32)
      (fresh : val ∉ s.usedRkeys) (tooLarge : isizeMax < len.toNat) :
      Registers s pd flags len (.panic .capacityOverflow,
        { s with nextLkey := s.nextLkey + 1, usedRkeys := insert val s.usedRkeys })
  | registered (val : UInt32) (room : AssocMap.size s.regions < s.maxRegions)
      (fits : s.totalRegisteredBytes.toNat + len.toNat < 2 ^ 64)
      (quota : s.totalRegisteredBytes.toNat + len.toNat ≤ s.maxTotalBytes.toNat)
      (next : s.nextLkey.toNat + 1 < 2 ^ 32) (nonzero : val ≠ 0)
      (fresh : val ∉ s.usedRkeys) :
      Registers s pd flags len (.ok (⟨s.nextLkey⟩, ⟨val⟩), s.withRegion pd flags len val)

/-- A full store registers nothing, whatever the length. -/
theorem register_run_of_full (full : s.maxRegions ≤ AssocMap.size s.regions) :
    (register draws pd flags len).run s = (.err .errInternal, s) := by
  rw [register, Method.run_bind_of_ok (Method.run_get s), Method.run_ite, if_pos full]
  rfl

section Room

variable (room : AssocMap.size s.regions < s.maxRegions)
include room

/-- The sum is computed without a check. -/
theorem register_run_of_overflow (beyond : 2 ^ 64 ≤ s.totalRegisteredBytes.toNat + len.toNat) :
    (register draws pd flags len).run s = (.panic .arithmeticOverflow, s) := by
  rw [register, Method.run_bind_of_ok (Method.run_get s), Method.run_ite,
    if_neg (Nat.not_le.mpr room), checkedAdd64, if_neg (Nat.not_lt.mpr beyond)]
  rfl

variable (fits : s.totalRegisteredBytes.toNat + len.toNat < 2 ^ 64)
include fits

/-- A registration beyond the quota is refused, if the sum can be computed. -/
theorem register_run_of_overQuota
    (beyond : s.maxTotalBytes.toNat < s.totalRegisteredBytes.toNat + len.toNat) :
    (register draws pd flags len).run s = (.err .errBounds, s) := by
  have quota : s.maxTotalBytes < s.totalRegisteredBytes + len := by
    rw [UInt64.lt_iff_toNat_lt, toNat_add64 fits]
    exact beyond
  rw [register, Method.run_bind_of_ok (Method.run_get s), Method.run_ite,
    if_neg (Nat.not_le.mpr room), checkedAdd64, if_pos fits, Outcome.orPanic_some,
    Method.run_bind_of_ok (Method.run_lift _ s), Method.run_ite, if_pos quota]
  rfl

/-- A registration within the quota takes an L_Key, draws an R_Key, and allocates the region. -/
theorem register_run_of_quota (draws : ℕ → UInt32) (pd : ProtectionDomain) (flags : AccessFlags)
    (quota : s.totalRegisteredBytes.toNat + len.toNat ≤ s.maxTotalBytes.toNat) :
    (2 ^ 32 ≤ s.nextLkey.toNat + 1 →
      (register draws pd flags len).run s = (.panic .arithmeticOverflow, s)) ∧
    (s.nextLkey.toNat + 1 < 2 ^ 32 →
      let next := { s with nextLkey := s.nextLkey + 1 }
      ((generateRkey draws).run next = (.err .errInternal, next) →
        (register draws pd flags len).run s = (.err .errInternal, next)) ∧
      ∀ val, (generateRkey draws).run next
          = (.ok ⟨val⟩, { next with usedRkeys := insert val s.usedRkeys }) →
        (register draws pd flags len).run s = if len.toNat ≤ isizeMax then
          (.ok (⟨s.nextLkey⟩, ⟨val⟩), s.withRegion pd flags len val)
        else (.panic .capacityOverflow, { next with usedRkeys := insert val s.usedRkeys })) := by
  have within : ¬ s.maxTotalBytes < s.totalRegisteredBytes + len := by
    rw [UInt64.lt_iff_toNat_lt, toNat_add64 fits]
    exact Nat.not_lt.mpr quota
  rw [register, Method.run_bind_of_ok (Method.run_get s), Method.run_ite,
    if_neg (Nat.not_le.mpr room), checkedAdd64, if_pos fits, Outcome.orPanic_some,
    Method.run_bind_of_ok (Method.run_lift _ s), Method.run_ite, if_neg within]
  dsimp only
  refine ⟨fun beyond => ?_, fun next => ?_⟩
  · have overflow : checkedAdd32 s.nextLkey 1 = none := if_neg (Nat.not_lt.mpr beyond)
    rw [overflow]
    rfl
  -- the L_Key is spent from here on
  have bumped : checkedAdd32 s.nextLkey 1 = some (s.nextLkey + 1) := if_pos next
  rw [bumped, Outcome.orPanic_some, Method.run_bind_of_ok (Method.run_lift _ s),
    Method.run_bind_of_ok (Method.run_modify _ s)]
  refine ⟨fun gaveUp => ?_, fun val drawn => ?_⟩
  · rw [Method.run_bind, gaveUp]
  · rw [Method.run_bind_of_ok drawn, zeroed]
    split_ifs with small
    · simp only [Method.run_bind, Method.run_lift, Method.run_modify, Method.run_get,
        Method.run_pure, checkedAdd64, if_pos fits, Outcome.orPanic_some]
      rfl
    · rfl

end Room

/-- `register` ends in one of the listed ways. -/
theorem register_spec (draws : ℕ → UInt32) (pd : ProtectionDomain) (flags : AccessFlags)
    (len : UInt64) (s : MemoryStore) :
    Registers s pd flags len ((register draws pd flags len).run s) := by
  -- the checks in the order of the source
  by_cases full : s.maxRegions ≤ AssocMap.size s.regions
  · rw [register_run_of_full full]
    exact .regionLimit full
  have room := Nat.lt_of_not_le full
  by_cases fits : s.totalRegisteredBytes.toNat + len.toNat < 2 ^ 64
  swap
  · rw [register_run_of_overflow room (Nat.le_of_not_lt fits)]
    exact .totalOverflow (Nat.le_of_not_lt fits)
  by_cases quota : s.totalRegisteredBytes.toNat + len.toNat ≤ s.maxTotalBytes.toNat
  swap
  · rw [register_run_of_overQuota room fits (Nat.lt_of_not_le quota)]
    exact .overQuota (Nat.lt_of_not_le quota)
  obtain ⟨overflows, goesOn⟩ := register_run_of_quota room fits draws pd flags quota
  by_cases next : s.nextLkey.toNat + 1 < 2 ^ 32
  swap
  · rw [overflows (Nat.le_of_not_lt next)]
    exact .lkeyOverflow (Nat.le_of_not_lt next)
  obtain ⟨givesUp, allocates⟩ := goesOn next
  obtain gaveUp | ⟨val, nonzero, fresh, drawn⟩ :=
    generateRkey_spec draws { s with nextLkey := s.nextLkey + 1 }
  · rw [givesUp gaveUp]
    exact .noFreshKey next
  · rw [allocates val drawn]
    split_ifs with small
    · exact .registered val room fits quota next nonzero fresh
    · exact .allocation val next fresh (Nat.lt_of_not_le small)

/-- One of the thousand draws of `generate_rkey` is a key that can be used: it is not 0 and was
never given out in this session. -/
def DrawsFresh (s : MemoryStore) (draws : ℕ → UInt32) : Prop :=
  ∃ i < 1000, draws i ≠ 0 ∧ draws i ∉ s.usedRkeys

/-- The loop returns the first draw that can be used, if there is one. -/
theorem generateRkeyFrom_of_fresh {j : ℕ} (fresh : draws j ≠ 0 ∧ draws j ∉ s.usedRkeys)
    (left i : ℕ) (from_i : i ≤ j) (below : j < i + left) :
    ∃ val, (generateRkeyFrom draws i left).run s
      = (.ok ⟨val⟩, { s with usedRkeys := insert val s.usedRkeys }) := by
  induction left generalizing i with
  | zero => omega
  | succ left ih =>
      simp only [generateRkeyFrom, Method.run_bind, Method.run_get, Method.run_ite]
      by_cases here : draws i ≠ 0 ∧ draws i ∉ s.usedRkeys
      · rw [if_pos here]
        exact ⟨draws i, rfl⟩
      · rw [if_neg here]
        have later : i ≠ j := fun same => here (same ▸ fresh)
        exact ih (i + 1) (by omega) (by omega)

/-- Without such a draw the loop gives up, and no key is spent. -/
theorem generateRkeyFrom_of_stale (left i : ℕ)
    (stale : ∀ j, i ≤ j → j < i + left → ¬ (draws j ≠ 0 ∧ draws j ∉ s.usedRkeys)) :
    (generateRkeyFrom draws i left).run s = (.err .errInternal, s) := by
  induction left generalizing i with
  | zero => rfl
  | succ left ih =>
      simp only [generateRkeyFrom, Method.run_bind, Method.run_get, Method.run_ite]
      rw [if_neg (stale i (Nat.le_refl i) (by omega))]
      exact ih (i + 1) fun j above below => stale j (by omega) (by omega)

section Quota

variable (pd : ProtectionDomain) (flags : AccessFlags)
  (room : AssocMap.size s.regions < s.maxRegions)
  (fits : s.totalRegisteredBytes.toNat + len.toNat < 2 ^ 64)
  (quota : s.totalRegisteredBytes.toNat + len.toNat ≤ s.maxTotalBytes.toNat)
  (next : s.nextLkey.toNat + 1 < 2 ^ 32)
include room fits quota next

/-- A registration within the quota that draws a key succeeds, if the region can be allocated; the
allocation of a region that no `Vec` can hold panics. -/
theorem register_run_of_fresh (fresh : s.DrawsFresh draws) :
    ∃ val, (register draws pd flags len).run s = if len.toNat ≤ isizeMax then
      (.ok (⟨s.nextLkey⟩, ⟨val⟩), s.withRegion pd flags len val)
    else (.panic .capacityOverflow,
      { s with nextLkey := s.nextLkey + 1, usedRkeys := insert val s.usedRkeys }) := by
  obtain ⟨j, below, usable⟩ := fresh
  obtain ⟨val, drawn⟩ := generateRkeyFrom_of_fresh (s := { s with nextLkey := s.nextLkey + 1 })
    usable 1000 0 (Nat.zero_le j) (by omega)
  exact ⟨val, ((register_run_of_quota room fits draws pd flags quota).2 next).2 val drawn⟩

/-- One that draws no key is refused, and has spent an L_Key. -/
theorem register_run_of_stale (stale : ¬ s.DrawsFresh draws) :
    (register draws pd flags len).run s
      = (.err .errInternal, { s with nextLkey := s.nextLkey + 1 }) := by
  refine ((register_run_of_quota room fits draws pd flags quota).2 next).1 ?_
  refine generateRkeyFrom_of_stale 1000 0 fun j _ below usable => stale ⟨j, by omega, usable⟩

end Quota

/-- The store after the region under `lkey` is gone from both maps. -/
def withoutRegion (s : MemoryStore) (lkey : LKey) (entry : MemoryRegionEntry) : MemoryStore :=
  { s with
    regions := s.regions.erase lkey.value
    rkeyToLkey := s.rkeyToLkey.erase entry.rkey.value
    totalRegisteredBytes := s.totalRegisteredBytes - UInt64.ofNat entry.data.length }

/-- Every way a call of `deregister` can end.  The subtraction from the byte total comes
after both removals, so its overflow leaves the maps changed. -/
inductive Deregisters (s : MemoryStore) (pd : ProtectionDomain) (lkey : LKey) :
    Outcome ErrorCode Unit × MemoryStore → Prop
  | unknown (absent : s.regions.lookup lkey.value = none) :
      Deregisters s pd lkey (.err .errInvalidLkey, s)
  | wrongDomain (entry : MemoryRegionEntry) (found : s.regions.lookup lkey.value = some entry)
      (other : entry.pd ≠ pd) : Deregisters s pd lkey (.err .errInvalidPd, s)
  | underflow (entry : MemoryRegionEntry) (found : s.regions.lookup lkey.value = some entry)
      (same : entry.pd = pd)
      (under : s.totalRegisteredBytes.toNat < (UInt64.ofNat entry.data.length).toNat) :
      Deregisters s pd lkey (.panic .arithmeticOverflow,
        { s.withoutRegion lkey entry with totalRegisteredBytes := s.totalRegisteredBytes })
  | removed (entry : MemoryRegionEntry) (found : s.regions.lookup lkey.value = some entry)
      (same : entry.pd = pd)
      (covered : (UInt64.ofNat entry.data.length).toNat ≤ s.totalRegisteredBytes.toNat) :
      Deregisters s pd lkey (.ok (), s.withoutRegion lkey entry)

/-- `deregister` ends in one of the listed ways. -/
theorem deregister_spec (pd : ProtectionDomain) (lkey : LKey) (s : MemoryStore) :
    Deregisters s pd lkey ((deregister pd lkey).run s) := by
  unfold deregister
  rw [Method.run_bind_of_ok (Method.run_get s)]
  rcases found : s.regions.lookup lkey.value with _ | entry
  · exact .unknown found
  rw [Outcome.okOr_some, Method.run_bind_of_ok (Method.run_lift _ s), Method.run_ite]
  by_cases other : entry.pd ≠ pd
  · rw [if_pos other]
    exact .wrongDomain entry found other
  rw [if_neg other]
  have same : entry.pd = pd := not_not.mp other
  by_cases covered : (UInt64.ofNat entry.data.length).toNat ≤ s.totalRegisteredBytes.toNat
  · simp only [Method.run_bind, Method.run_lift, Method.run_modify, Method.run_get,
      checkedSub64, if_pos covered, Outcome.orPanic_some]
    exact .removed entry found same covered
  · simp only [Method.run_bind, Method.run_lift, Method.run_modify, Method.run_get,
      checkedSub64, if_neg covered, Outcome.orPanic_none]
    exact .underflow entry found same (Nat.lt_of_not_le covered)

end Registration

section Access

variable {s : MemoryStore} {rkey : RKey}

/-- The opening of an access never panics. -/
theorem entryFor_ne_panic (s : MemoryStore) (rkey : RKey) (required : AccessFlags) (p : Panic) :
    s.entryFor rkey required ≠ .panic p := by
  unfold entryFor
  rcases s.rkeyToLkey.lookup rkey.value with _ | lkeyVal
  · simp
  · rcases hentry : s.regions.lookup lkeyVal with _ | entry
    · simp [hentry]
    · simp only [Outcome.okOr_some, Outcome.ok_bind, hentry]
      split <;> simp

/-- `validate_rkey` never panics. -/
theorem validateRkey_ne_panic (s : MemoryStore) (rkey : RKey) (required : AccessFlags)
    (p : Panic) : s.validateRkey rkey required ≠ .panic p := by
  rw [validateRkey]
  rcases granted : s.entryFor rkey required with found | code | p'
  · simp
  · simp
  · exact absurd granted (entryFor_ne_panic _ _ _ _)

/-- An access that goes on found the key, the region and the right. -/
theorem entryFor_eq_ok {required : AccessFlags} {lkeyVal : UInt32} {entry : MemoryRegionEntry} :
    s.entryFor rkey required = .ok (lkeyVal, entry) ↔
      s.rkeyToLkey.lookup rkey.value = some lkeyVal ∧ s.regions.lookup lkeyVal = some entry ∧
        entry.accessFlags.contains required := by
  unfold entryFor
  -- the two lookups and the right, one after the other
  rcases s.rkeyToLkey.lookup rkey.value with _ | lkeyVal'
  · simp
  · rcases hentry : s.regions.lookup lkeyVal' with _ | entry'
    · simp only [Outcome.okOr_some, Outcome.ok_bind, hentry, Outcome.okOr_none, Outcome.err_bind,
        reduceCtorEq, Option.some.injEq, false_iff]
      rintro ⟨rfl, found, -⟩
      simp [hentry] at found
    · simp only [Outcome.okOr_some, Outcome.ok_bind, hentry]
      by_cases right : entry'.accessFlags.contains required
      · rw [if_neg (by simpa using right)]
        constructor
        · intro h
          cases h
          exact ⟨rfl, hentry, right⟩
        · rintro ⟨h, found, -⟩
          cases h
          rw [hentry] at found
          cases found
          rfl
      · rw [if_pos (by simpa using right)]
        constructor
        · intro h
          cases h
        · rintro ⟨h, found, has⟩
          cases h
          rw [hentry] at found
          cases found
          exact absurd has right

/-- An access that is refused leaves the store alone. -/
theorem writeRegion_run_refused {offset : UInt64} {data : Bytes} {code : ErrorCode}
    (refused : s.entryFor rkey .remoteWrite = .err code) :
    (writeRegion rkey offset data).run s = (.err code, s) := by
  unfold writeRegion
  rw [Method.run_bind_of_ok (Method.run_get s), refused]
  rfl

/-- The range lies inside a buffer of `size` bytes, and its end is an address. -/
def InRange (start len size : ℕ) : Prop := start + len < usizeBound ∧ start + len ≤ size

instance (start len size : ℕ) : Decidable (InRange start len size) :=
  inferInstanceAs (Decidable (_ ∧ _))

/-- In a buffer that fits in memory the end of a range inside it is an address. -/
theorem inRange_iff_of_small {start len size : ℕ} (small : size < usizeBound) :
    InRange start len size ↔ start + len ≤ size :=
  ⟨And.right, fun inside => ⟨Nat.lt_of_le_of_lt inside small, inside⟩⟩

/-- `write_region` on a region it may write. -/
theorem writeRegion_run_granted {offset : UInt64} {data : Bytes} {lkeyVal : UInt32}
    {entry : MemoryRegionEntry} (granted : s.entryFor rkey .remoteWrite = .ok (lkeyVal, entry)) :
    (writeRegion rkey offset data).run s =
      if InRange offset.toNat data.length entry.data.length then
        (.ok (), s.setData lkeyVal entry (splice entry.data offset.toNat data))
      else (.err .errBounds, s) := by
  unfold writeRegion
  rw [Method.run_bind_of_ok (Method.run_get s), granted,
    Method.run_bind_of_ok (Method.run_lift _ s)]
  dsimp only
  by_cases address : offset.toNat + data.length < usizeBound
  · rw [checkedAddUsize, if_pos address, Outcome.okOr_some,
      Method.run_bind_of_ok (Method.run_lift _ s), Method.run_ite]
    by_cases inside : offset.toNat + data.length ≤ entry.data.length
    · rw [if_neg (Nat.not_lt.mpr inside), copyFromSlice_eq_ok inside,
        Method.run_bind_of_ok (Method.run_lift _ s), Method.run_modify, if_pos ⟨address, inside⟩]
    · rw [if_pos (Nat.lt_of_not_le inside), Method.run_throw, if_neg fun range => inside range.2]
  · rw [checkedAddUsize, if_neg address, if_neg fun range => address range.1]
    rfl

/-- The same for a region that fits in memory: the range is tested without overflow. -/
theorem writeRegion_run {offset : UInt64} {data : Bytes} {lkeyVal : UInt32}
    {entry : MemoryRegionEntry} (granted : s.entryFor rkey .remoteWrite = .ok (lkeyVal, entry))
    (small : entry.data.length < usizeBound) :
    (writeRegion rkey offset data).run s =
      if offset.toNat + data.length ≤ entry.data.length then
        (.ok (), s.setData lkeyVal entry (splice entry.data offset.toNat data))
      else (.err .errBounds, s) := by
  simp only [writeRegion_run_granted granted, inRange_iff_of_small small]

/-- A read of a key that does not grant it returns the code of the refusal. -/
theorem readRegion_refused {offset len : UInt64} {code : ErrorCode}
    (refused : s.entryFor rkey .remoteRead = .err code) :
    s.readRegion rkey offset len = .err code := by
  unfold readRegion
  rw [refused, Outcome.err_bind]

/-- `read_region` on a region it may read. -/
theorem readRegion_granted {offset len : UInt64} {lkeyVal : UInt32} {entry : MemoryRegionEntry}
    (granted : s.entryFor rkey .remoteRead = .ok (lkeyVal, entry)) :
    s.readRegion rkey offset len =
      if InRange offset.toNat len.toNat entry.data.length then
        .ok ((entry.data.drop offset.toNat).take len.toNat)
      else .err .errBounds := by
  unfold readRegion
  rw [granted, Outcome.ok_bind]
  dsimp only
  by_cases address : offset.toNat + len.toNat < usizeBound
  · rw [checkedAddUsize, if_pos address, Outcome.okOr_some, Outcome.ok_bind]
    by_cases inside : offset.toNat + len.toNat ≤ entry.data.length
    · rw [if_neg (Nat.not_lt.mpr inside), slice_eq_ok (Nat.le_add_right _ _) inside,
        Nat.add_sub_cancel_left, if_pos ⟨address, inside⟩]
    · rw [if_pos (Nat.lt_of_not_le inside), if_neg fun range => inside range.2]
  · rw [checkedAddUsize, if_neg address, if_neg fun range => address range.1]
    rfl

/-- The same for a region that fits in memory. -/
theorem readRegion_eq {offset len : UInt64} {lkeyVal : UInt32} {entry : MemoryRegionEntry}
    (granted : s.entryFor rkey .remoteRead = .ok (lkeyVal, entry))
    (small : entry.data.length < usizeBound) :
    s.readRegion rkey offset len =
      if offset.toNat + len.toNat ≤ entry.data.length then
        .ok ((entry.data.drop offset.toNat).take len.toNat)
      else .err .errBounds := by
  simp only [readRegion_granted granted, inRange_iff_of_small small]

/-- `read_region` returns as many bytes as it is asked for. -/
theorem length_of_readRegion {offset len : UInt64} {data : Bytes}
    (read : s.readRegion rkey offset len = .ok data) : data.length = len.toNat := by
  rcases access : s.entryFor rkey .remoteRead with ⟨lkeyVal, entry⟩ | code | p
  · rw [readRegion_granted access] at read
    split_ifs at read with range
    cases read
    have inside := range.2
    rw [List.length_take, List.length_drop]
    omega
  · rw [readRegion_refused access] at read
    cases read
  · exact absurd access (entryFor_ne_panic _ _ _ _)

/-- `read_region` never panics. -/
theorem readRegion_ne_panic (s : MemoryStore) (rkey : RKey) (offset len : UInt64) (p : Panic) :
    s.readRegion rkey offset len ≠ .panic p := by
  rcases access : s.entryFor rkey .remoteRead with ⟨lkeyVal, entry⟩ | code | p'
  · rw [readRegion_granted access]
    split <;> simp
  · simp [readRegion_refused access]
  · exact absurd access (entryFor_ne_panic _ _ _ _)

/-- An atomic operation on a key that does not grant it leaves the store alone. -/
theorem atomicOp_run_refused {va : UInt64} {atomicType : UInt8} {operand1 operand2 : UInt64}
    {code : ErrorCode} (refused : s.entryFor rkey .remoteAtomic = .err code) :
    (atomicOp rkey va atomicType operand1 operand2).run s = (.err code, s) := by
  unfold atomicOp
  rw [Method.run_bind_of_ok (Method.run_get s), refused]
  rfl

/-- The big-endian word at `start`, as the atomic operations read it. -/
def wordAt (data : Bytes) (start : ℕ) : UInt64 := UInt64.ofNat (ofBE ((data.drop start).take 8))

/-- `atomic_op` on a region it may access: alignment, then range, then the type. -/
theorem atomicOp_run_granted {va : UInt64} {atomicType : UInt8} {operand1 operand2 : UInt64}
    {lkeyVal : UInt32} {entry : MemoryRegionEntry}
    (granted : s.entryFor rkey .remoteAtomic = .ok (lkeyVal, entry)) :
    (atomicOp rkey va atomicType operand1 operand2).run s =
      if va.toNat % 8 ≠ 0 then (.err .errAlignment, s)
      else if InRange va.toNat 8 entry.data.length then
        match atomicValue atomicType (wordAt entry.data va.toNat) operand1 operand2 with
        | some value => (.ok (wordAt entry.data va.toNat),
            s.setData lkeyVal entry (splice entry.data va.toNat (putU64 value)))
        | none => (.err .errUnknownOpcode, s)
      else (.err .errBounds, s) := by
  unfold atomicOp
  rw [Method.run_bind_of_ok (Method.run_get s), granted,
    Method.run_bind_of_ok (Method.run_lift _ s)]
  dsimp only
  rw [Method.run_ite]
  by_cases aligned : va.toNat % 8 ≠ 0
  · rw [if_pos aligned, if_pos aligned, Method.run_throw]
  rw [if_neg aligned, if_neg aligned]
  -- the end of the range is computed first, and compared only if it is an address
  by_cases address : va.toNat + 8 < usizeBound
  swap
  · rw [checkedAddUsize, if_neg address, if_neg fun range => address range.1]
    rfl
  rw [checkedAddUsize, if_pos address, Outcome.okOr_some,
    Method.run_bind_of_ok (Method.run_lift _ s), Method.run_ite]
  by_cases inside : va.toNat + 8 ≤ entry.data.length
  · rw [if_neg (Nat.not_lt.mpr inside), slice_eq_ok (Nat.le_add_right _ _) inside,
      Nat.add_sub_cancel_left, Method.run_bind_of_ok (Method.run_lift _ s),
      if_pos ⟨address, inside⟩]
    change Method.run (Method.lift (Outcome.okOr _ (atomicValue _ (wordAt _ _) _ _)) >>= _) s = _
    rcases atomicValue atomicType (wordAt entry.data va.toNat) operand1 operand2 with _ | value
    · rfl
    · have copied : (copyFromSlice entry.data va.toNat (va.toNat + 8) (putU64 value) :
          Outcome ErrorCode Bytes) = .ok (splice entry.data va.toNat (putU64 value)) :=
        if_pos ⟨Nat.le_add_right _ _, inside, by simp⟩
      rw [Outcome.okOr_some, Method.run_bind_of_ok (Method.run_lift _ s), copied]
      rfl
  · rw [if_pos (Nat.lt_of_not_le inside), Method.run_throw, if_neg fun range => inside range.2]

/-- The same for a region that fits in memory. -/
theorem atomicOp_run {va : UInt64} {atomicType : UInt8} {operand1 operand2 : UInt64}
    {lkeyVal : UInt32} {entry : MemoryRegionEntry}
    (granted : s.entryFor rkey .remoteAtomic = .ok (lkeyVal, entry))
    (small : entry.data.length < usizeBound) :
    (atomicOp rkey va atomicType operand1 operand2).run s =
      if va.toNat % 8 ≠ 0 then (.err .errAlignment, s)
      else if va.toNat + 8 ≤ entry.data.length then
        match atomicValue atomicType (wordAt entry.data va.toNat) operand1 operand2 with
        | some value => (.ok (wordAt entry.data va.toNat),
            s.setData lkeyVal entry (splice entry.data va.toNat (putU64 value)))
        | none => (.err .errUnknownOpcode, s)
      else (.err .errBounds, s) := by
  simp only [atomicOp_run_granted granted, inRange_iff_of_small small]

/-- `write_region` never panics. -/
theorem writeRegion_ne_panic (s : MemoryStore) (rkey : RKey) (offset : UInt64) (data : Bytes)
    (p : Panic) : ((writeRegion rkey offset data).run s).1 ≠ .panic p := by
  rcases access : s.entryFor rkey .remoteWrite with ⟨lkeyVal, entry⟩ | code | p'
  · rw [writeRegion_run_granted access]
    split <;> simp
  · simp [writeRegion_run_refused access]
  · exact absurd access (entryFor_ne_panic _ _ _ _)

/-- `atomic_op` never panics. -/
theorem atomicOp_ne_panic (s : MemoryStore) (rkey : RKey) (va : UInt64) (atomicType : UInt8)
    (operand1 operand2 : UInt64) (p : Panic) :
    ((atomicOp rkey va atomicType operand1 operand2).run s).1 ≠ .panic p := by
  rcases access : s.entryFor rkey .remoteAtomic with ⟨lkeyVal, entry⟩ | code | p'
  · rw [atomicOp_run_granted access]
    split_ifs
    · simp
    · split <;> simp
    · simp
  · simp [atomicOp_run_refused access]
  · exact absurd access (entryFor_ne_panic _ _ _ _)

end Access

end MemoryStore

/-! ### The store as a machine -/

/-- One call of the store's interface, with its arguments and the draws of the random
source during it. -/
inductive StoreOp where
  | register (draws : ℕ → UInt32) (pd : ProtectionDomain) (accessFlags : AccessFlags)
      (regionLen : UInt64)
  | deregister (pd : ProtectionDomain) (lkey : LKey)
  | validateRkey (rkey : RKey) (requiredAccess : AccessFlags)
  | writeRegion (rkey : RKey) (offset : UInt64) (data : Bytes)
  | readRegion (rkey : RKey) (offset len : UInt64)
  | atomicOp (rkey : RKey) (remoteVa : UInt64) (atomicType : UInt8) (operand1 operand2 : UInt64)

/-- The call is a registration. -/
def StoreOp.isRegister : StoreOp → Bool
  | .register .. => true
  | _ => false

/-- What a call of the interface returns. -/
inductive StoreResult where
  | registered (result : Outcome ErrorCode (LKey × RKey))
  | deregistered (result : Outcome ErrorCode Unit)
  | validated (result : Outcome ErrorCode MemoryRegionEntry)
  | wrote (result : Outcome ErrorCode Unit)
  | read (result : Outcome ErrorCode Bytes)
  | updated (result : Outcome ErrorCode UInt64)

/-- The call returned an error code. -/
def StoreResult.IsErr : StoreResult → Prop
  | .registered result => result.IsErr
  | .deregistered result => result.IsErr
  | .validated result => result.IsErr
  | .wrote result => result.IsErr
  | .read result => result.IsErr
  | .updated result => result.IsErr

namespace MemoryStore

/-- One call of the interface.  The store goes on after an error, and also after a panic, with
whatever the call left behind. -/
def step (s : MemoryStore) : StoreOp → StoreResult × MemoryStore
  | .register draws pd flags len => (register draws pd flags len |>.run s).map .registered id
  | .deregister pd lkey => (deregister pd lkey |>.run s).map .deregistered id
  | .validateRkey rkey required => (.validated (s.validateRkey rkey required), s)
  | .writeRegion rkey offset data => (writeRegion rkey offset data |>.run s).map .wrote id
  | .readRegion rkey offset len => (.read (s.readRegion rkey offset len), s)
  | .atomicOp rkey va ty operand1 operand2 =>
      (atomicOp rkey va ty operand1 operand2 |>.run s).map .updated id

/-- The store after a sequence of calls. -/
abbrev after (s : MemoryStore) (ops : List StoreOp) : MemoryStore := Machine.exec step s ops

end MemoryStore

end Rdows
