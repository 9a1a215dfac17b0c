import Rdows.Server.MemoryStore

/-!
# The memory store's representation invariant

`StoreInv` says how the two key maps, the set of used keys, the L_Key counter and the byte total
hang together.  It holds of a new store and every call keeps it, whatever the arguments and the
random draws, so it holds after every run.

* `Moves s t` lists what a single call can do to a store that satisfies the invariant; `step_moves`
  is the only place where the operations are taken apart.
* `StoreInv.moves` is preservation, `storeInv_after` the invariant of every run, and
  `after_representation` adds what follows from it: live R_Keys are distinct, `deregister` never
  underflows, and a run within the counters' ranges never overflows.
* `RkeyRetired` is the part of the state that remembers a deregistered R_Key.  It survives every
  call, and it makes every access with that key fail (`rkey_fresh_and_retired`).

## Moves

A move is what a call leaves behind, without the call: keys are spent, a region is added, one is
removed, or the bytes of one are overwritten.  The invariant is preserved move by move, and so are
the properties of whole runs that come later (access rights, domains, retired keys), which would
otherwise each go through the operations and their errors again.

## The quota

`register` computes three machine words that can leave their ranges: the byte total, the next L_Key
and the size of the allocation.  As long as they are in range, the quota is exact: a registration is
refused if and only if it exceeds one of the limits or no key can be drawn.  `QuotaExact` states
this for one registration, and `register_exact` says that being in range is also necessary: outside,
the registration panics where it should have been decided.
-/

namespace Rdows

open Rust

namespace MemoryStore

/-- **The representation invariant**: the R_Key map is the index of the regions, all keys that are
live were handed out, the byte total is the sum of the lengths, and the limits are kept. -/
structure StoreInv (s : MemoryStore) : Prop where
  /-- Every region is stored under its own L_Key. -/
  ownLkey : ∀ l e, s.regions.lookup l = some e → e.lkey.value = l
  /-- The R_Key map is the inverse of "the region under `l` has R_Key `r`". -/
  inverse : ∀ r l, s.rkeyToLkey.lookup r = some l ↔
    ∃ e, s.regions.lookup l = some e ∧ e.rkey.value = r
  /-- Live R_Keys are nonzero. -/
  nonzero : ∀ l e, s.regions.lookup l = some e → e.rkey.value ≠ 0
  /-- Live R_Keys are marked as used. -/
  used : ∀ l e, s.regions.lookup l = some e → e.rkey.value ∈ s.usedRkeys
  /-- L_Keys are handed out in increasing order. -/
  belowNext : ∀ l e, s.regions.lookup l = some e → l.toNat < s.nextLkey.toNat
  /-- The byte total is the sum of the region sizes. -/
  total : s.totalRegisteredBytes.toNat = AssocMap.weight (fun e => e.data.length) s.regions
  /-- The number of regions stays within its limit. -/
  regionsWithin : AssocMap.size s.regions ≤ s.maxRegions
  /-- The byte total stays within its limit. -/
  bytesWithin : s.totalRegisteredBytes.toNat ≤ s.maxTotalBytes.toNat

/-- A new store satisfies the invariant. -/
theorem storeInv_new (maxRegions : ℕ) (maxTotalBytes : UInt64) :
    StoreInv (new maxRegions maxTotalBytes) where
  ownLkey := by simp [new]
  inverse := by simp [new]
  nonzero := by simp [new]
  used := by simp [new]
  belowNext := by simp [new]
  total := rfl
  regionsWithin := Nat.zero_le _
  bytesWithin := Nat.zero_le _

namespace StoreInv

variable {s : MemoryStore}

/-- The R_Key map is the index of the regions by their R_Keys. -/
theorem indexes (inv : StoreInv s) :
    AssocMap.Indexes (fun e : MemoryRegionEntry => e.rkey.value) s.rkeyToLkey s.regions :=
  inv.inverse

/-- Regions with the same R_Key are the same region. -/
theorem rkey_injective (inv : StoreInv s) {l l' : UInt32} {e e' : MemoryRegionEntry}
    (h : s.regions.lookup l = some e) (h' : s.regions.lookup l' = some e')
    (same : e.rkey = e'.rkey) : l = l' :=
  inv.indexes.injective h h' (congrArg RKey.value same)

/-- A region is no larger than the byte total. -/
theorem length_le_total (inv : StoreInv s) {l : UInt32} {e : MemoryRegionEntry}
    (h : s.regions.lookup l = some e) : e.data.length ≤ s.totalRegisteredBytes.toNat := by
  rw [inv.total]
  exact AssocMap.le_weight (fun e : MemoryRegionEntry => e.data.length) h

/-- Region sizes fit in a `usize`. -/
theorem length_lt (inv : StoreInv s) {l : UInt32} {e : MemoryRegionEntry}
    (h : s.regions.lookup l = some e) : e.data.length < usizeBound :=
  Nat.lt_of_le_of_lt (inv.length_le_total h) s.totalRegisteredBytes.toNat_lt

/-- The size of a region survives the cast to `u64`. -/
theorem toNat_length (inv : StoreInv s) {l : UInt32} {e : MemoryRegionEntry}
    (h : s.regions.lookup l = some e) : (UInt64.ofNat e.data.length).toNat = e.data.length := by
  rw [UInt64.toNat_ofNat']
  exact Nat.mod_eq_of_lt (inv.length_lt h)

/-- The L_Key about to be handed out is free. -/
theorem nextLkey_free (inv : StoreInv s) : s.regions.lookup s.nextLkey = none := by
  rcases h : s.regions.lookup s.nextLkey with _ | e
  · rfl
  · exact absurd (inv.belowNext _ _ h) (Nat.lt_irrefl _)

/-- The R_Key map knows used keys only. -/
theorem used_of_lookup (inv : StoreInv s) {r l : UInt32} (h : s.rkeyToLkey.lookup r = some l) :
    r ∈ s.usedRkeys := by
  obtain ⟨e, he, rfl⟩ := (inv.inverse r l).mp h
  exact inv.used l e he

end StoreInv

/-! ### What one call can do -/

/-- What a write or an atomic update can do: nothing, or new bytes of the same length in
one region. -/
inductive Overwrites (s : MemoryStore) : MemoryStore → Prop
  | stay : Overwrites s s
  | data (lkeyVal : UInt32) (entry : MemoryRegionEntry) (data : Bytes)
      (found : s.regions.lookup lkeyVal = some entry)
      (sameLength : data.length = entry.data.length) :
      Overwrites s (s.setData lkeyVal entry data)

/-- What one call can do to a store that satisfies the invariant. -/
inductive Moves (s : MemoryStore) : MemoryStore → Prop
  /-- Nothing. -/
  | stay : Moves s s
  /-- A registration that failed late: keys are spent, no region is added. -/
  | spendKeys (used : Finset UInt32) (next : s.nextLkey.toNat + 1 < 2 ^ 32)
      (grows : s.usedRkeys ⊆ used) :
      Moves s { s with nextLkey := s.nextLkey + 1, usedRkeys := used }
  /-- A registration. -/
  | add (pd : ProtectionDomain) (flags : AccessFlags) (len : UInt64) (val : UInt32)
      (room : AssocMap.size s.regions < s.maxRegions)
      (fits : s.totalRegisteredBytes.toNat + len.toNat < 2 ^ 64)
      (quota : s.totalRegisteredBytes.toNat + len.toNat ≤ s.maxTotalBytes.toNat)
      (next : s.nextLkey.toNat + 1 < 2 ^ 32) (nonzero : val ≠ 0) (fresh : val ∉ s.usedRkeys) :
      Moves s (s.withRegion pd flags len val)
  /-- A deregistration. -/
  | remove (lkey : LKey) (entry : MemoryRegionEntry)
      (found : s.regions.lookup lkey.value = some entry) : Moves s (s.withoutRegion lkey entry)
  /-- A write or an atomic update. -/
  | overwrite {t : MemoryStore} (h : Overwrites s t) : Moves s t

section Step

variable {s : MemoryStore}

/-- `deregister` does not underflow. -/
theorem StoreInv.covered (inv : StoreInv s) {lkey : LKey} {entry : MemoryRegionEntry}
    (found : s.regions.lookup lkey.value = some entry) :
    (UInt64.ofNat entry.data.length).toNat ≤ s.totalRegisteredBytes.toNat := by
  rw [inv.toNat_length found]
  exact inv.length_le_total found

/-- A deregistration does not panic: the byte total covers the region that is removed. -/
theorem deregister_not_isPanic (inv : StoreInv s) (pd : ProtectionDomain) (lkey : LKey) :
    ¬ ((deregister pd lkey).run s).1.IsPanic := by
  have ends := deregister_spec pd lkey s
  generalize (deregister pd lkey).run s = out at ends
  cases ends with
  | unknown => simp
  | wrongDomain => simp
  | underflow entry found same under => exact absurd (inv.covered found) (Nat.not_le.mpr under)
  | removed => simp

/-- What a registration can do. -/
theorem register_moves (draws : ℕ → UInt32) (pd : ProtectionDomain) (flags : AccessFlags)
    (len : UInt64) : Moves s ((register draws pd flags len).run s).2 := by
  have ends := register_spec draws pd flags len s
  generalize (register draws pd flags len).run s = out at ends
  cases ends with
  | regionLimit => exact .stay
  | totalOverflow => exact .stay
  | overQuota => exact .stay
  | lkeyOverflow => exact .stay
  | noFreshKey next => exact .spendKeys s.usedRkeys next (Finset.Subset.refl _)
  | allocation val next => exact .spendKeys _ next (Finset.subset_insert _ _)
  | registered val room fits quota next nonzero fresh =>
      exact .add pd flags len val room fits quota next nonzero fresh

/-- What a deregistration can do.  Without the invariant the subtraction could underflow. -/
theorem deregister_moves (inv : StoreInv s) (pd : ProtectionDomain) (lkey : LKey) :
    Moves s ((deregister pd lkey).run s).2 := by
  have ends := deregister_spec pd lkey s
  generalize (deregister pd lkey).run s = out at ends
  cases ends with
  | unknown => exact .stay
  | wrongDomain => exact .stay
  | underflow entry found same under => exact absurd (inv.covered found) (Nat.not_le.mpr under)
  | removed entry found => exact .remove lkey entry found

/-- An access that changes the store changes the region of its R_Key, which has the right. -/
def WritesUnder (s : MemoryStore) (rkey : RKey) (right : AccessFlags) (t : MemoryStore) : Prop :=
  t = s ∨ ∃ l e data, s.entryFor rkey right = .ok (l, e) ∧ data.length = e.data.length ∧
    t = s.setData l e data

/-- A write changes the region of its R_Key only, under the right to write. -/
theorem writeRegion_writesUnder (s : MemoryStore) (rkey : RKey) (offset : UInt64) (data : Bytes) :
    s.WritesUnder rkey .remoteWrite ((writeRegion rkey offset data).run s).2 := by
  rcases access : s.entryFor rkey .remoteWrite with ⟨l, e⟩ | code | p
  · rw [writeRegion_run_granted access]
    split
    · rename_i range
      exact .inr ⟨l, e, _, access, length_splice range.2, rfl⟩
    · exact .inl rfl
  · rw [writeRegion_run_refused access]
    exact .inl rfl
  · exact absurd access (entryFor_ne_panic _ _ _ _)

/-- An atomic operation changes the region of its R_Key only, under the right to do so. -/
theorem atomicOp_writesUnder (s : MemoryStore) (rkey : RKey) (va : UInt64) (ty : UInt8)
    (operand1 operand2 : UInt64) :
    s.WritesUnder rkey .remoteAtomic ((atomicOp rkey va ty operand1 operand2).run s).2 := by
  rcases access : s.entryFor rkey .remoteAtomic with ⟨l, e⟩ | code | p
  · rw [atomicOp_run_granted access]
    split_ifs with misaligned range
    · exact .inl rfl
    · split
      · refine .inr ⟨l, e, _, access, length_splice ?_, rfl⟩
        rw [length_putU64]
        exact range.2
      · exact .inl rfl
    · exact .inl rfl
  · rw [atomicOp_run_refused access]
    exact .inl rfl
  · exact absurd access (entryFor_ne_panic _ _ _ _)

/-- Such an access overwrites the bytes of one region. -/
theorem WritesUnder.overwrites {rkey : RKey} {right : AccessFlags} {t : MemoryStore}
    (writes : s.WritesUnder rkey right t) : Overwrites s t := by
  rcases writes with rfl | ⟨l, e, data, access, sameLength, rfl⟩
  · exact .stay
  · obtain ⟨-, found, -⟩ := entryFor_eq_ok.mp access
    exact .data l e data found sameLength

/-- **One call.**  From a store that satisfies the invariant, every call is one of the
listed moves. -/
theorem step_moves (inv : StoreInv s) (op : StoreOp) : Moves s (step s op).2 := by
  cases op with
  | register draws pd flags len => exact register_moves draws pd flags len
  | deregister pd lkey => exact deregister_moves inv pd lkey
  | validateRkey rkey required => exact .stay
  | writeRegion rkey offset data =>
      exact .overwrite (writeRegion_writesUnder s rkey offset data).overwrites
  | readRegion rkey offset len => exact .stay
  | atomicOp rkey va ty operand1 operand2 =>
      exact .overwrite (atomicOp_writesUnder s rkey va ty operand1 operand2).overwrites

end Step

/-! ### Preservation -/

section Preservation

variable {s t : MemoryStore}

/-- Keys that are spent without a region do not hurt. -/
theorem StoreInv.spendKeys (inv : StoreInv s) {used : Finset UInt32}
    (next : s.nextLkey.toNat + 1 < 2 ^ 32) (grows : s.usedRkeys ⊆ used) :
    StoreInv { s with nextLkey := s.nextLkey + 1, usedRkeys := used } := by
  have bumped : (s.nextLkey + 1).toNat = s.nextLkey.toNat + 1 := toNat_add32 next
  refine { inv with used := ?_, belowNext := ?_ }
  · intro l e h
    exact grows (inv.used l e h)
  · intro l e h
    have := inv.belowNext l e h
    simp only [bumped]
    omega

/-- A registration adds one region under a fresh L_Key and a fresh R_Key. -/
theorem StoreInv.add (inv : StoreInv s) {pd : ProtectionDomain} {flags : AccessFlags}
    {len : UInt64} {val : UInt32} (room : AssocMap.size s.regions < s.maxRegions)
    (fits : s.totalRegisteredBytes.toNat + len.toNat < 2 ^ 64)
    (quota : s.totalRegisteredBytes.toNat + len.toNat ≤ s.maxTotalBytes.toNat)
    (next : s.nextLkey.toNat + 1 < 2 ^ 32) (nonzero : val ≠ 0) (fresh : val ∉ s.usedRkeys) :
    StoreInv (s.withRegion pd flags len val) := by
  have bumped : (s.nextLkey + 1).toNat = s.nextLkey.toNat + 1 := toNat_add32 next
  have sum : (s.totalRegisteredBytes + len).toNat = s.totalRegisteredBytes.toNat + len.toNat :=
    toNat_add64 fits
  have free := inv.nextLkey_free
  have ownLkey : (LKey.mk s.nextLkey).value = s.nextLkey := rfl
  have below : s.nextLkey.toNat < (s.nextLkey + 1).toNat := by omega
  -- every live R_Key has been used, and the new one has not
  have unused (l : UInt32) (e : MemoryRegionEntry) (found : s.regions.lookup l = some e) :
      e.rkey.value ≠ val := by
    rintro rfl
    exact fresh (inv.used l e found)
  have indexed := inv.indexes.insert
    (v := ⟨pd, ⟨s.nextLkey⟩, ⟨val⟩, flags, List.replicate len.toNat 0⟩) free unused
  exact {
    ownLkey := AssocMap.forall_insert ownLkey inv.ownLkey
    inverse := indexed
    nonzero := AssocMap.forall_insert nonzero inv.nonzero
    used := AssocMap.forall_insert (Finset.mem_insert_self _ _) fun l e found =>
      Finset.mem_insert_of_mem (inv.used l e found)
    belowNext := AssocMap.forall_insert below fun l e found =>
      Nat.lt_trans (inv.belowNext l e found) below
    total := by
      show (s.totalRegisteredBytes + len).toNat = _
      rw [sum, withRegion, AssocMap.weight_insert_of_fresh _ _ free, inv.total,
        List.length_replicate]
      omega
    regionsWithin := by
      show AssocMap.size (s.regions.insert _ _) ≤ s.maxRegions
      rw [AssocMap.size_insert_of_fresh _ free]
      omega
    bytesWithin := by
      show (s.totalRegisteredBytes + len).toNat ≤ _
      rw [sum]
      exact quota }

/-- A deregistration takes one region and its R_Key out. -/
theorem StoreInv.remove (inv : StoreInv s) {lkey : LKey} {entry : MemoryRegionEntry}
    (found : s.regions.lookup lkey.value = some entry) :
    StoreInv (s.withoutRegion lkey entry) := by
  -- the byte total covers the region, so the subtraction is exact
  have difference : (s.totalRegisteredBytes - UInt64.ofNat entry.data.length).toNat
      = s.totalRegisteredBytes.toNat - entry.data.length := by
    rw [toNat_sub64 (inv.covered found), inv.toNat_length found]
  exact {
    ownLkey := AssocMap.forall_erase inv.ownLkey
    inverse := inv.indexes.erase found
    nonzero := AssocMap.forall_erase inv.nonzero
    used := AssocMap.forall_erase inv.used
    belowNext := AssocMap.forall_erase inv.belowNext
    total := by
      show (s.totalRegisteredBytes - UInt64.ofNat entry.data.length).toNat
        = AssocMap.weight _ (s.regions.erase lkey.value)
      rw [difference, inv.total, AssocMap.weight_erase _ found, Nat.add_sub_cancel_left]
    regionsWithin := by
      have before := inv.regionsWithin
      rw [AssocMap.size_erase found] at before
      exact Nat.le_of_add_left_le before
    bytesWithin := by
      have before := inv.bytesWithin
      show (s.totalRegisteredBytes - UInt64.ofNat entry.data.length).toNat ≤ s.maxTotalBytes.toNat
      omega }

/-- Overwriting a region's bytes touches no key and no length. -/
theorem StoreInv.overwrite (inv : StoreInv s) {lkeyVal : UInt32} {entry : MemoryRegionEntry}
    {data : Bytes} (found : s.regions.lookup lkeyVal = some entry)
    (sameLength : data.length = entry.data.length) :
    StoreInv (s.setData lkeyVal entry data) where
  ownLkey := AssocMap.forall_insert (inv.ownLkey _ entry found) inv.ownLkey
  inverse := inv.indexes.replace found rfl
  nonzero := AssocMap.forall_insert (inv.nonzero _ entry found) inv.nonzero
  used := AssocMap.forall_insert (inv.used _ entry found) inv.used
  belowNext := AssocMap.forall_insert (inv.belowNext _ entry found) inv.belowNext
  total := inv.total.trans (AssocMap.weight_insert_of_lookup _ found sameLength).symm
  regionsWithin := by
    show AssocMap.size (s.regions.insert _ _) ≤ s.maxRegions
    rw [AssocMap.size_insert_of_lookup _ found]
    exact inv.regionsWithin
  bytesWithin := inv.bytesWithin

/-- Every move keeps the invariant. -/
theorem StoreInv.moves (inv : StoreInv s) (move : Moves s t) : StoreInv t := by
  cases move with
  | stay => exact inv
  | spendKeys used next grows => exact inv.spendKeys next grows
  | add pd flags len val room fits quota next nonzero fresh =>
      exact inv.add room fits quota next nonzero fresh
  | remove lkey entry found => exact inv.remove found
  | overwrite h =>
      cases h with
      | stay => exact inv
      | data lkeyVal entry data found sameLength => exact inv.overwrite found sameLength

/-- Every call keeps the invariant. -/
theorem StoreInv.step (inv : StoreInv s) (op : StoreOp) : StoreInv (step s op).2 :=
  inv.moves (step_moves inv op)

/-- The invariant holds along every run that starts with it. -/
theorem StoreInv.after (inv : StoreInv s) (ops : List StoreOp) : StoreInv (s.after ops) :=
  Machine.exec_induction inv (fun _ op h => h.step op) ops

/-- **The invariant holds after every run** from a new store, whatever calls are made and whatever
is drawn, also after calls that failed or panicked. -/
theorem storeInv_after (maxRegions : ℕ) (maxTotalBytes : UInt64) (ops : List StoreOp) :
    StoreInv ((new maxRegions maxTotalBytes).after ops) :=
  (storeInv_new maxRegions maxTotalBytes).after ops

end Preservation

/-! ### Runs within the counters' ranges -/

section Counters

variable {s : MemoryStore}

/-- Overwriting spends no L_Key. -/
theorem Overwrites.nextLkey_eq {t : MemoryStore} (h : Overwrites s t) :
    t.nextLkey = s.nextLkey := by
  cases h <;> rfl

/-- Only a registration moves the L_Key counter, and by one at most. -/
theorem step_nextLkey_le (s : MemoryStore) (op : StoreOp) :
    (step s op).2.nextLkey.toNat ≤ s.nextLkey.toNat + if op.isRegister then 1 else 0 := by
  cases op with
  | register draws pd flags len =>
      have bumped (next : s.nextLkey.toNat + 1 < 2 ^ 32) :
          (s.nextLkey + 1).toNat ≤ s.nextLkey.toNat + 1 := Nat.le_of_eq (toNat_add32 next)
      change ((register draws pd flags len).run s).2.nextLkey.toNat ≤ s.nextLkey.toNat + 1
      have ends := register_spec draws pd flags len s
      generalize (register draws pd flags len).run s = out at ends
      -- an L_Key is spent by the failures that come after the checks
      cases ends with
      | regionLimit => exact Nat.le_succ _
      | totalOverflow => exact Nat.le_succ _
      | overQuota => exact Nat.le_succ _
      | lkeyOverflow => exact Nat.le_succ _
      | noFreshKey next => exact bumped next
      | allocation val next => exact bumped next
      | registered val room fits quota next => exact bumped next
  | deregister pd lkey =>
      change ((deregister pd lkey).run s).2.nextLkey.toNat ≤ s.nextLkey.toNat
      have ends := deregister_spec pd lkey s
      generalize (deregister pd lkey).run s = out at ends
      cases ends <;> exact Nat.le_refl _
  | validateRkey rkey required => exact Nat.le_refl _
  | writeRegion rkey offset data =>
      exact Nat.le_of_eq (congrArg UInt32.toNat
        (writeRegion_writesUnder s rkey offset data).overwrites.nextLkey_eq)
  | readRegion rkey offset len => exact Nat.le_refl _
  | atomicOp rkey va ty operand1 operand2 =>
      exact Nat.le_of_eq (congrArg UInt32.toNat
        (atomicOp_writesUnder s rkey va ty operand1 operand2).overwrites.nextLkey_eq)

/-- The L_Key counter is at most one more than the number of registrations so far. -/
theorem nextLkey_after_le (inv : StoreInv s) (ops : List StoreOp) :
    (s.after ops).nextLkey.toNat ≤ s.nextLkey.toNat + ops.countP StoreOp.isRegister := by
  induction ops generalizing s with
  | nil => exact Nat.le_refl _
  | cons op ops ih =>
      have head := step_nextLkey_le s op
      have tail := ih (inv.step op)
      rw [List.countP_cons]
      exact Nat.le_trans tail (by omega)

/-- A registration overflows neither the L_Key counter nor the byte total while both are
in range. -/
theorem register_ne_overflow {draws : ℕ → UInt32} {pd : ProtectionDomain} {flags : AccessFlags}
    {len : UInt64} (next : s.nextLkey.toNat + 1 < 2 ^ 32)
    (fits : s.totalRegisteredBytes.toNat + len.toNat < 2 ^ 64) :
    ((register draws pd flags len).run s).1 ≠ .panic .arithmeticOverflow := by
  have ends := register_spec draws pd flags len s
  generalize (register draws pd flags len).run s = out at ends
  cases ends with
  | totalOverflow beyond => omega
  | lkeyOverflow beyond => omega
  | _ => simp

/-- **The representation of every reachable store.**  After any run from a new store,
with any arguments and any draws, the invariant holds, live R_Keys are pairwise
distinct, and `deregister` does not underflow.  If there were fewer than `2 ^ 32 - 1`
registrations, and none asked for a byte total of `2 ^ 64` or more, no registration of
the run overflowed either. -/
theorem after_representation (maxRegions : ℕ) (maxTotalBytes : UInt64) (ops : List StoreOp) :
    StoreInv ((new maxRegions maxTotalBytes).after ops) ∧
    (∀ l l' e e', ((new maxRegions maxTotalBytes).after ops).regions.lookup l = some e →
      ((new maxRegions maxTotalBytes).after ops).regions.lookup l' = some e' →
      e.rkey = e'.rkey → l = l') ∧
    (∀ pd lkey, ¬ ((deregister pd lkey).run
      ((new maxRegions maxTotalBytes).after ops)).1.IsPanic) ∧
    (ops.countP StoreOp.isRegister < 2 ^ 32 - 1 →
      (∀ front draws pd flags len back, ops = front ++ .register draws pd flags len :: back →
        ((new maxRegions maxTotalBytes).after front).totalRegisteredBytes.toNat + len.toNat
          < 2 ^ 64) →
      ∀ front draws pd flags len back, ops = front ++ .register draws pd flags len :: back →
        ((register draws pd flags len).run ((new maxRegions maxTotalBytes).after front)).1
          ≠ .panic .arithmeticOverflow) := by
  have inv := storeInv_after maxRegions maxTotalBytes ops
  refine ⟨inv, ?_, ?_, ?_⟩
  · intro l l' e e' h h' same
    exact inv.rkey_injective h h' same
  · intro pd lkey
    exact deregister_not_isPanic inv pd lkey
  · intro few fits front draws pd flags len back split
    have counter := nextLkey_after_le (storeInv_new maxRegions maxTotalBytes) front
    have start : (new maxRegions maxTotalBytes).nextLkey.toNat = 1 := rfl
    rw [split, List.countP_append, List.countP_cons_of_pos rfl] at few
    exact register_ne_overflow (by omega) (fits front draws pd flags len back split)

end Counters

/-! ### The quota -/

section Quota

variable {s t : MemoryStore}

/-- No call changes the limits of a store. -/
theorem Moves.limits (move : Moves s t) :
    t.maxRegions = s.maxRegions ∧ t.maxTotalBytes = s.maxTotalBytes := by
  cases move with
  | overwrite h => cases h <;> exact ⟨rfl, rfl⟩
  | _ => exact ⟨rfl, rfl⟩

/-- The limits of a store are the ones it was made with. -/
theorem limits_after (maxRegions : ℕ) (maxTotalBytes : UInt64) (ops : List StoreOp) :
    ((new maxRegions maxTotalBytes).after ops).maxRegions = maxRegions ∧
      ((new maxRegions maxTotalBytes).after ops).maxTotalBytes = maxTotalBytes :=
  (Machine.exec_induction (P := fun t => StoreInv t ∧
      t.maxRegions = maxRegions ∧ t.maxTotalBytes = maxTotalBytes)
    ⟨storeInv_new _ _, rfl, rfl⟩
    (fun _ op h => ⟨h.1.step op, (step_moves h.1 op).limits.1.trans h.2.1,
      (step_moves h.1 op).limits.2.trans h.2.2⟩) ops).2

/-- **What the quota promises of one registration.**  A full store refuses it with `ERR_INTERNAL`; a
store with room refuses it with `ERR_BOUNDS` if the bytes together exceed the quota; neither changes
anything.  Otherwise, if a key can be drawn, a region of exactly `len` zero bytes is added.  Sums
are sums of natural numbers, and nothing panics. -/
structure QuotaExact (s : MemoryStore) (draws : ℕ → UInt32) (pd : ProtectionDomain)
    (flags : AccessFlags) (len : UInt64) : Prop where
  full : s.maxRegions ≤ AssocMap.size s.regions →
    (register draws pd flags len).run s = (.err .errInternal, s)
  beyond : AssocMap.size s.regions < s.maxRegions →
    s.maxTotalBytes.toNat < s.totalRegisteredBytes.toNat + len.toNat →
    (register draws pd flags len).run s = (.err .errBounds, s)
  within : AssocMap.size s.regions < s.maxRegions →
    s.totalRegisteredBytes.toNat + len.toNat ≤ s.maxTotalBytes.toNat → s.DrawsFresh draws →
    ∃ r t, (register draws pd flags len).run s = (.ok (⟨s.nextLkey⟩, r), t) ∧
      t.regions = s.regions.insert s.nextLkey
        { pd, lkey := ⟨s.nextLkey⟩, rkey := r, accessFlags := flags
          data := List.replicate len.toNat 0 } ∧
      t.totalRegisteredBytes.toNat = s.totalRegisteredBytes.toNat + len.toNat
  total : ¬ ((register draws pd flags len).run s).1.IsPanic

/-- The numbers that `register` computes are within the range of their types.  It computes them one
after the other: the sum only if there is room for one more region, the next L_Key only if the sum
is within the quota, and the region is allocated only if a key was drawn. -/
structure Representable (s : MemoryStore) (draws : ℕ → UInt32) (len : UInt64) : Prop where
  sum : AssocMap.size s.regions < s.maxRegions →
    s.totalRegisteredBytes.toNat + len.toNat < 2 ^ 64
  lkey : AssocMap.size s.regions < s.maxRegions →
    s.totalRegisteredBytes.toNat + len.toNat ≤ s.maxTotalBytes.toNat →
    s.nextLkey.toNat + 1 < 2 ^ 32
  allocation : AssocMap.size s.regions < s.maxRegions →
    s.totalRegisteredBytes.toNat + len.toNat ≤ s.maxTotalBytes.toNat → s.DrawsFresh draws →
    len.toNat ≤ isizeMax

section Exact

variable {draws : ℕ → UInt32} {pd : ProtectionDomain} {flags : AccessFlags} {len : UInt64}

/-- Within the ranges every check of `register` compares the exact numbers. -/
theorem Representable.quotaExact (range : s.Representable draws len) :
    s.QuotaExact draws pd flags len where
  full := register_run_of_full
  beyond room := register_run_of_overQuota room (range.sum room)
  within room quota fresh := by
    obtain ⟨val, run⟩ := register_run_of_fresh pd flags room (range.sum room) quota
      (range.lkey room quota) fresh
    rw [if_pos (range.allocation room quota fresh)] at run
    exact ⟨⟨val⟩, _, run, rfl, toNat_add64 (range.sum room)⟩
  total := by
    by_cases full : s.maxRegions ≤ AssocMap.size s.regions
    · rw [register_run_of_full full]
      exact id
    have room := Nat.lt_of_not_le full
    by_cases quota : s.totalRegisteredBytes.toNat + len.toNat ≤ s.maxTotalBytes.toNat
    · have next := range.lkey room quota
      by_cases fresh : s.DrawsFresh draws
      · obtain ⟨val, run⟩ := register_run_of_fresh pd flags room (range.sum room) quota next fresh
        rw [run, if_pos (range.allocation room quota fresh)]
        exact id
      · rw [register_run_of_stale pd flags room (range.sum room) quota next fresh]
        exact id
    · rw [register_run_of_overQuota room (range.sum room) (Nat.lt_of_not_le quota)]
      exact id

/-- Each of the three numbers panics when it leaves its range, and nothing that comes before it can
have refused the registration. -/
theorem QuotaExact.representable (keeps : s.QuotaExact draws pd flags len) :
    s.Representable draws len := by
  have sum (room : AssocMap.size s.regions < s.maxRegions) :
      s.totalRegisteredBytes.toNat + len.toNat < 2 ^ 64 := by
    by_contra beyond
    have run : (register draws pd flags len).run s = _ :=
      register_run_of_overflow room (Nat.le_of_not_lt beyond)
    exact keeps.total (by rw [run]; trivial)
  have lkey (room : AssocMap.size s.regions < s.maxRegions)
      (quota : s.totalRegisteredBytes.toNat + len.toNat ≤ s.maxTotalBytes.toNat) :
      s.nextLkey.toNat + 1 < 2 ^ 32 := by
    by_contra beyond
    have run := (register_run_of_quota room (sum room) draws pd flags quota).1
      (Nat.le_of_not_lt beyond)
    exact keeps.total (by rw [run]; trivial)
  refine ⟨sum, lkey, fun room quota fresh => ?_⟩
  by_contra tooLarge
  obtain ⟨val, run⟩ := register_run_of_fresh pd flags room (sum room) quota (lkey room quota) fresh
  rw [if_neg tooLarge] at run
  exact keeps.total (by rw [run]; trivial)

end Exact

/-- **The quota is exact exactly as long as the numbers are in range.**  Take any store that is
reached from a new one, with any limits, and any registration with any draws.  It does what the
quota promises if and only if the byte total, the next L_Key and the length of the region can be
represented when `register` comes to compute them; and the limits are still those of the new
store. -/
theorem register_exact (maxRegions : ℕ) (maxTotalBytes : UInt64) (ops : List StoreOp)
    (draws : ℕ → UInt32) (pd : ProtectionDomain) (flags : AccessFlags) (len : UInt64) :
    let s := (new maxRegions maxTotalBytes).after ops
    s.maxRegions = maxRegions ∧ s.maxTotalBytes = maxTotalBytes ∧
      (s.QuotaExact draws pd flags len ↔ s.Representable draws len) := by
  intro s
  obtain ⟨regionLimit, byteLimit⟩ := limits_after maxRegions maxTotalBytes ops
  exact ⟨regionLimit, byteLimit, QuotaExact.representable, Representable.quotaExact⟩

/-- One region of eight bytes, and a quota of sixteen: nine more bytes are too many, and eight more
are registered.  The numbers are far from the ends of their ranges. -/
theorem register_exact_sixteen :
    let s := (new 4 16).after [.register (fun _ => 7) ⟨1⟩ .remoteWrite 8]
    (register (fun _ => 9) ⟨1⟩ .remoteWrite 9).run s = (.err .errBounds, s) ∧
    ∃ r t, (register (fun _ => 9) ⟨1⟩ .remoteWrite 8).run s = (.ok (⟨2⟩, r), t) ∧
      t.totalRegisteredBytes.toNat = 16 := by
  intro s
  have range (len : UInt64) (small : len.toNat ≤ 9) : s.Representable (fun _ => 9) len := by
    refine ⟨fun _ => ?_, fun _ _ => by decide, fun _ _ _ => ?_⟩
    · show 8 + len.toNat < 2 ^ 64
      omega
    · exact Nat.le_trans small (by decide)
  obtain ⟨-, -, nine⟩ := register_exact 4 16 [.register (fun _ => 7) ⟨1⟩ .remoteWrite 8]
    (fun _ => 9) ⟨1⟩ .remoteWrite 9
  obtain ⟨-, -, eight⟩ := register_exact 4 16 [.register (fun _ => 7) ⟨1⟩ .remoteWrite 8]
    (fun _ => 9) ⟨1⟩ .remoteWrite 8
  obtain ⟨r, t, run, -, total⟩ := (eight.mpr (range 8 (by decide))).within (by decide) (by decide)
    ⟨0, by decide, by decide⟩
  exact ⟨(nine.mpr (range 9 (by decide))).beyond (by decide) (by decide), r, t, run, total⟩

/-- With one byte registered, a length of `2 ^ 64 - 1` overflows the sum: the registration panics
where the quota should have refused it. -/
theorem register_overflows :
    ∃ (ops : List StoreOp) (draws : ℕ → UInt32) (pd : ProtectionDomain) (flags : AccessFlags)
      (len : UInt64),
      AssocMap.size ((new 4096 0x800000000).after ops).regions < 4096 ∧
      0x800000000 < ((new 4096 0x800000000).after ops).totalRegisteredBytes.toNat + len.toNat ∧
      ((register draws pd flags len).run ((new 4096 0x800000000).after ops)).1
        = .panic .arithmeticOverflow :=
  ⟨[.register (fun _ => 7) ⟨1⟩ .remoteWrite 1], fun _ => 9, ⟨1⟩, .remoteWrite, 0xFFFFFFFFFFFFFFFF,
    by decide, by decide, by decide⟩

end Quota

/-! ### R_Keys over a whole run -/

section Keys

variable {s t : MemoryStore}

/-- The R_Key `r` was handed out and has no region. -/
def RkeyRetired (r : RKey) (s : MemoryStore) : Prop :=
  r.value ∈ s.usedRkeys ∧ s.rkeyToLkey.lookup r.value = none

/-- Some registration seen so far returned the R_Key `r`. -/
def Returned (seen : List (StoreOp × StoreResult)) (r : RKey) : Prop :=
  ∃ op l, (op, StoreResult.registered (.ok (l, r))) ∈ seen

/-- Used keys stay used. -/
theorem Moves.usedRkeys_subset (move : Moves s t) : s.usedRkeys ⊆ t.usedRkeys := by
  cases move with
  | stay => exact Finset.Subset.refl _
  | spendKeys used next grows => exact grows
  | add => exact Finset.subset_insert _ _
  | remove => exact Finset.Subset.refl _
  | overwrite h => cases h <;> exact Finset.Subset.refl _

/-- A retired key stays retired: the only insertion into the key map is under a key that
was never used. -/
theorem RkeyRetired.moves {r : RKey} (retired : RkeyRetired r s) (move : Moves s t) :
    RkeyRetired r t := by
  refine ⟨move.usedRkeys_subset retired.1, ?_⟩
  cases move with
  | stay => exact retired.2
  | spendKeys => exact retired.2
  | add pd flags len val room fits quota next nonzero fresh =>
      have other : r.value ≠ val := fun same => fresh (same ▸ retired.1)
      exact (AList.lookup_insert_ne other).trans retired.2
  | remove lkey entry found =>
      rw [withoutRegion, AssocMap.lookup_erase_eq_ite]
      split
      · rfl
      · exact retired.2
  | overwrite h => cases h <;> exact retired.2

/-- A retired key stays retired over every run. -/
theorem RkeyRetired.after {r : RKey} (inv : StoreInv s) (retired : RkeyRetired r s)
    (ops : List StoreOp) : RkeyRetired r (s.after ops) :=
  (Machine.exec_induction (P := fun t => StoreInv t ∧ RkeyRetired r t) ⟨inv, retired⟩
    (fun _ op h => ⟨h.1.step op, h.2.moves (step_moves h.1 op)⟩) ops).2

/-- No access with a retired key gets past the key lookup. -/
theorem RkeyRetired.entryFor {r : RKey} (retired : RkeyRetired r s) (required : AccessFlags) :
    s.entryFor r required = .err .errInvalidMkey := by
  rw [MemoryStore.entryFor, retired.2]
  rfl

/-- A deregistration retires the R_Key of its region. -/
theorem rkeyRetired_of_deregister (inv : StoreInv s) {pd : ProtectionDomain} {lkey : LKey}
    {entry : MemoryRegionEntry} (found : s.regions.lookup lkey.value = some entry)
    (done : (deregister pd lkey).run s = (.ok (), t)) : RkeyRetired entry.rkey t := by
  have ends := deregister_spec pd lkey s
  rw [done] at ends
  cases ends with
  | removed entry' found' =>
      rw [found] at found'
      cases found'
      exact ⟨inv.used _ _ found, AList.lookup_erase _ _⟩

/-- Every R_Key that a registration of the run returned is marked as used. -/
theorem used_of_returned (maxRegions : ℕ) (maxTotalBytes : UInt64) (ops : List StoreOp) :
    ∀ r, Returned (Machine.history step (new maxRegions maxTotalBytes) ops) r →
      r.value ∈ ((new maxRegions maxTotalBytes).after ops).usedRkeys := by
  suffices StoreInv ((new maxRegions maxTotalBytes).after ops) ∧
      ∀ r, Returned (Machine.history step (new maxRegions maxTotalBytes) ops) r →
        r.value ∈ ((new maxRegions maxTotalBytes).after ops).usedRkeys from this.2
  refine Machine.run_induction (P := fun seen t => StoreInv t ∧
    ∀ r, Returned seen r → r.value ∈ t.usedRkeys) ⟨storeInv_new _ _, by simp [Returned]⟩ ?_ ops
  rintro seen t op ⟨inv, used⟩
  have move := step_moves inv op
  refine ⟨inv.moves move, ?_⟩
  rintro r ⟨op', l, h⟩
  rcases List.mem_cons.mp h with latest | earlier
  · -- The latest call: it returned a key, so it was a successful registration.
    obtain ⟨rfl, result⟩ := Prod.mk.inj latest
    cases op' with
    | register draws pd flags len =>
        have ends := register_spec draws pd flags len t
        have ok : ((register draws pd flags len).run t).1 = .ok (l, r) :=
          (StoreResult.registered.inj result).symm
        change r.value ∈ ((register draws pd flags len).run t).2.usedRkeys
        generalize (register draws pd flags len).run t = out at ends ok
        cases ends with
        | registered val =>
            cases ok
            exact Finset.mem_insert_self _ _
        | _ => cases ok
    | _ => cases result
  · exact move.usedRkeys_subset (used r ⟨op', l, earlier⟩)

/-- **R_Keys are fresh, and dead once deregistered.**  After any run, a registration
that succeeds returns a nonzero R_Key that no registration of the run returned before;
and after a successful deregistration, every later access with the region's R_Key
returns `ERR_INVALID_MKEY` and changes nothing, whatever is called in between. -/
theorem rkey_fresh_and_retired (maxRegions : ℕ) (maxTotalBytes : UInt64)
    (ops : List StoreOp) :
    (∀ draws pd flags len l r t,
      (register draws pd flags len).run ((new maxRegions maxTotalBytes).after ops)
        = (.ok (l, r), t) →
      r.value ≠ 0 ∧ ∀ r', Returned (Machine.history step (new maxRegions maxTotalBytes) ops) r' →
        r' ≠ r) ∧
    (∀ pd lkey entry t,
      ((new maxRegions maxTotalBytes).after ops).regions.lookup lkey.value = some entry →
      (deregister pd lkey).run ((new maxRegions maxTotalBytes).after ops) = (.ok (), t) →
      ∀ later : List StoreOp,
        (∀ offset data, (writeRegion entry.rkey offset data).run (t.after later)
          = (.err .errInvalidMkey, t.after later)) ∧
        (∀ offset len, (t.after later).readRegion entry.rkey offset len
          = .err .errInvalidMkey) ∧
        (∀ va ty operand1 operand2,
          (atomicOp entry.rkey va ty operand1 operand2).run (t.after later)
            = (.err .errInvalidMkey, t.after later)) ∧
        (∀ required, (t.after later).validateRkey entry.rkey required
          = .err .errInvalidMkey)) := by
  have inv := storeInv_after maxRegions maxTotalBytes ops
  constructor
  · intro draws pd flags len l r t done
    have ends := register_spec draws pd flags len ((new maxRegions maxTotalBytes).after ops)
    rw [done] at ends
    cases ends with
    | registered val room fits quota next nonzero fresh =>
        refine ⟨nonzero, ?_⟩
        rintro r' earlier rfl
        exact fresh (used_of_returned maxRegions maxTotalBytes ops _ earlier)
  · intro pd lkey entry t found done later
    have kept : StoreInv t := by
      have := inv.moves (deregister_moves inv pd lkey)
      rwa [done] at this
    -- The R_Key stays used and is no longer live, and no call makes a used key live again.
    have retired := (rkeyRetired_of_deregister inv found done).after kept later
    refine ⟨?_, ?_, ?_, ?_⟩
    · intro offset data
      exact writeRegion_run_refused (retired.entryFor _)
    · intro offset len
      exact readRegion_refused (retired.entryFor _)
    · intro va ty operand1 operand2
      exact atomicOp_run_refused (retired.entryFor _)
    · intro required
      rw [validateRkey, retired.entryFor]
      rfl

end Keys

end MemoryStore

end Rdows
