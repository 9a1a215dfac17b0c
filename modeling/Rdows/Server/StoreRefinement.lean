import Mathlib.Algebra.BigOperators.Finprod
import Mathlib.Logic.Function.Basic
import Rdows.Server.StoreInvariant

/-!
# The memory store refines an abstract memory

The abstract memory is what a remote peer can name: a partial map from R_Keys to a byte array with
access rights.  It knows nothing of L_Keys, counters or machine words; ranges and sums are those of
the natural numbers.

* `Memory.write`, `Memory.read` and `Memory.atomic` are the accesses, total functions that return a
  value or an error code.  They cannot panic, by their type.
* `Memory.Allows` is one step of the abstract memory.  A registration may pick any free key and a
  deregistration removes some key: the abstract memory does not decide which.
* `Memory.lastWritten` reads the value of a byte off a history alone, and `Memory.Reaches.holdsLast`
  says that an abstract memory always holds that value.
* `toMemory` forgets the representation of a store, `step_refines` is the simulation of one call,
  `reaches_after` carries it to whole runs, and `after_actsAsMemory` says what a client of the store
  gets from it.

## What the abstraction forgets

Two stores with the same memory can differ in the L_Keys of their regions, in the domains, in the
order of the maps and in the keys that were used before.  A peer that only accesses memory sees none
of this.  A deregistration names an L_Key, so the abstract memory cannot say which R_Key it removes;
that the right one is removed is `rkey_fresh_and_retired` of `Server.StoreInvariant`.

## Words

The accesses of the store compute in `u64` and `usize`, those of the memory in the natural numbers.
That they agree is not for free: the end of a range is computed with `checked_add`, and a length is
cast to `u64`.  The invariant provides what is needed, namely that every region fits in memory.
-/

namespace Rdows

open Rust

/-! ### The abstract memory -/

/-- A registered byte array with its access rights. -/
@[ext]
structure Segment where
  accessFlags : AccessFlags
  data : Bytes

/-- The abstract memory: which R_Keys are live, and what they name. -/
abbrev Memory := RKey → Option Segment

namespace Memory

/-- The memory with no live key. -/
def empty : Memory := fun _ => none

/-- The sum of `f` over the segments that are live. -/
noncomputable def sum (f : Segment → ℕ) (m : Memory) : ℕ := ∑ᶠ r, (m r).elim 0 f

/-- The number of live keys. -/
noncomputable def count (m : Memory) : ℕ := m.sum fun _ => 1

/-- The number of bytes that live keys name. -/
noncomputable def bytes (m : Memory) : ℕ := m.sum fun segment => segment.data.length

/-- The memory with the meaning of one key replaced. -/
def set (m : Memory) (r : RKey) (segment : Option Segment) : Memory := Function.update m r segment

/-- The key that was replaced. -/
@[simp] theorem set_self (m : Memory) (r : RKey) (segment : Option Segment) :
    m.set r segment r = segment := by
  simp [set]

/-- Every other key keeps its meaning. -/
theorem set_of_ne (m : Memory) {r r' : RKey} (segment : Option Segment) (h : r' ≠ r) :
    m.set r segment r' = m r' := by
  simp [set, h]

/-- The segment a key names, if the key is live and grants the right. -/
def access (m : Memory) (r : RKey) (required : AccessFlags) : Except ErrorCode Segment :=
  match m r with
  | none => .error .errInvalidMkey
  | some segment =>
      if segment.accessFlags.contains required then .ok segment else .error .errAccessDenied

/-- Overwrite `[offset, offset + data.length)`, if the key grants it and the range is inside its
segment. -/
def write (m : Memory) (r : RKey) (offset : ℕ) (data : Bytes) : Except ErrorCode Unit × Memory :=
  match m.access r .remoteWrite with
  | .error code => (.error code, m)
  | .ok segment =>
      if offset + data.length ≤ segment.data.length then
        (.ok (), m.set r (some { segment with data := splice segment.data offset data }))
      else (.error .errBounds, m)

/-- The bytes `[offset, offset + len)`, if the key grants it and the range is inside its segment. -/
def read (m : Memory) (r : RKey) (offset len : ℕ) : Except ErrorCode Bytes :=
  match m.access r .remoteRead with
  | .error code => .error code
  | .ok segment =>
      if offset + len ≤ segment.data.length then .ok ((segment.data.drop offset).take len)
      else .error .errBounds

/-- What an atomic operation does to a 64-bit word: compare-and-swap, or fetch-and-add
modulo `2 ^ 64`. -/
def atomicUpdate (atomicType : UInt8) (operand1 operand2 : ℕ) : Option (ℕ → ℕ) :=
  if atomicType = atomicTypeCas then some fun word => if word = operand1 then operand2 else word
  else if atomicType = atomicTypeFaa then some fun word => (word + operand1) % 2 ^ 64
  else none

/-- Replace the big-endian word at `va` and give the previous one.  The checks come in the order of
the source: the right, the alignment, the range, the type. -/
def atomic (m : Memory) (r : RKey) (va : ℕ) (atomicType : UInt8) (operand1 operand2 : ℕ) :
    Except ErrorCode ℕ × Memory :=
  match m.access r .remoteAtomic with
  | .error code => (.error code, m)
  | .ok segment =>
      if va % 8 ≠ 0 then (.error .errAlignment, m)
      else if va + 8 ≤ segment.data.length then
        let word := ofBE ((segment.data.drop va).take 8)
        match atomicUpdate atomicType operand1 operand2 with
        | some update => (.ok word, m.set r (some { segment with
            data := splice segment.data va (toBE 8 (update word)) }))
        | none => (.error .errUnknownOpcode, m)
      else (.error .errBounds, m)

/-- One step of the abstract memory: the call, what it returned, and the memory after. -/
inductive Allows (m : Memory) : StoreOp → StoreResult → Memory → Prop
  | register {draws pd flags} {len : UInt64} {l : LKey} {r : RKey} (free : m r = none) :
      Allows m (.register draws pd flags len) (.registered (.ok (l, r)))
        (m.set r (some ⟨flags, List.replicate len.toNat 0⟩))
  | registerFails {draws pd flags len result} (failed : ¬ result.IsOk) :
      Allows m (.register draws pd flags len) (.registered result) m
  | deregister {pd lkey} {r : RKey} (live : m r ≠ none) :
      Allows m (.deregister pd lkey) (.deregistered (.ok ())) (m.set r none)
  | deregisterFails {pd lkey code} :
      Allows m (.deregister pd lkey) (.deregistered (.err code)) m
  | validate {r required} {e : MemoryRegionEntry}
      (granted : m.access r required = .ok ⟨e.accessFlags, e.data⟩) :
      Allows m (.validateRkey r required) (.validated (.ok e)) m
  | validateFails {r required code} (refused : m.access r required = .error code) :
      Allows m (.validateRkey r required) (.validated (.err code)) m
  | write {r} {offset : UInt64} {data} :
      Allows m (.writeRegion r offset data) (.wrote (.ofExcept (m.write r offset.toNat data).1))
        (m.write r offset.toNat data).2
  | read {r} {offset len : UInt64} :
      Allows m (.readRegion r offset len) (.read (.ofExcept (m.read r offset.toNat len.toNat))) m
  | atomic {r} {va : UInt64} {ty} {operand1 operand2 : UInt64} :
      Allows m (.atomicOp r va ty operand1 operand2)
        (.updated (.ofExcept
          ((m.atomic r va.toNat ty operand1.toNat operand2.toNat).1.map UInt64.ofNat)))
        (m.atomic r va.toNat ty operand1.toNat operand2.toNat).2

/-- The abstract memory `m` can come out of a run with the given history, most recent
call first. -/
inductive Reaches : List (StoreOp × StoreResult) → Memory → Prop
  | start : Reaches [] empty
  | next {seen m op result m'} (earlier : Reaches seen m) (step : Allows m op result m') :
      Reaches ((op, result) :: seen) m'

/-! ### The last value written -/

/-- **The last value written to byte `i` of `r`**, read off a history (most recent call
first): zero if nothing was written since the registration of `r`. -/
def lastWritten (r : RKey) (i : ℕ) : List (StoreOp × StoreResult) → UInt8
  | [] => 0
  | (.register .., .registered (.ok (_, r'))) :: earlier =>
      if r' = r then 0 else lastWritten r i earlier
  | (.writeRegion r' offset data, .wrote (.ok _)) :: earlier =>
      if r' = r ∧ offset.toNat ≤ i ∧ i < offset.toNat + data.length then
        (data[i - offset.toNat]?).getD 0
      else lastWritten r i earlier
  | (.atomicOp r' va ty operand1 operand2, .updated (.ok original)) :: earlier =>
      if r' = r ∧ va.toNat ≤ i ∧ i < va.toNat + 8 then
        match atomicUpdate ty operand1.toNat operand2.toNat with
        | some update => ((toBE 8 (update original.toNat))[i - va.toNat]?).getD 0
        | none => lastWritten r i earlier
      else lastWritten r i earlier
  | _ :: earlier => lastWritten r i earlier

variable {m m' : Memory} {r : RKey} {seen : List (StoreOp × StoreResult)}

/-- An access that goes on names a live key. -/
theorem access_eq_ok {required : AccessFlags} {segment : Segment} :
    m.access r required = .ok segment ↔
      m r = some segment ∧ segment.accessFlags.contains required := by
  rw [access]
  rcases m r with _ | found
  · simp
  · dsimp only
    split_ifs with right
    · constructor
      · intro h
        cases h
        exact ⟨rfl, right⟩
      · rintro ⟨h, -⟩
        cases h
        rfl
    · constructor
      · intro h
        cases h
      · rintro ⟨h, has⟩
        cases h
        exact absurd has right

/-- A write fails and changes nothing, or it splices its data into one live segment. -/
theorem write_cases (m : Memory) (r : RKey) (offset : ℕ) (data : Bytes) :
    (∃ code, m.write r offset data = (.error code, m)) ∨
    ∃ segment, m r = some segment ∧ offset + data.length ≤ segment.data.length ∧
      m.write r offset data
        = (.ok (), m.set r (some { segment with data := splice segment.data offset data })) := by
  rw [write]
  rcases granted : m.access r .remoteWrite with code | segment
  · exact .inl ⟨code, rfl⟩
  dsimp only
  split_ifs with inside
  · exact .inr ⟨segment, (access_eq_ok.mp granted).1, inside, rfl⟩
  · exact .inl ⟨.errBounds, rfl⟩

/-- An atomic operation fails and changes nothing, or it replaces one word of one live
segment and gives the word that was there. -/
theorem atomic_cases (m : Memory) (r : RKey) (va : ℕ) (ty : UInt8) (operand1 operand2 : ℕ) :
    (∃ code, m.atomic r va ty operand1 operand2 = (.error code, m)) ∨
    ∃ segment update, m r = some segment ∧ atomicUpdate ty operand1 operand2 = some update ∧
      va + 8 ≤ segment.data.length ∧
      m.atomic r va ty operand1 operand2
        = (.ok (ofBE ((segment.data.drop va).take 8)), m.set r (some { segment with
            data := splice segment.data va
              (toBE 8 (update (ofBE ((segment.data.drop va).take 8)))) })) := by
  rw [atomic]
  rcases granted : m.access r .remoteAtomic with code | segment
  · exact .inl ⟨code, rfl⟩
  dsimp only
  split_ifs with misaligned inside
  · exact .inl ⟨.errAlignment, rfl⟩
  · rcases known : atomicUpdate ty operand1 operand2 with _ | update
    · exact .inl ⟨.errUnknownOpcode, rfl⟩
    · exact .inr ⟨segment, update, (access_eq_ok.mp granted).1, rfl, inside, rfl⟩
  · exact .inl ⟨.errBounds, rfl⟩

/-- Eight bytes spell a number of 64 bits. -/
theorem toNat_ofNat_word {data : Bytes} {va : ℕ} (inside : va + 8 ≤ data.length) :
    (UInt64.ofNat (ofBE ((data.drop va).take 8))).toNat = ofBE ((data.drop va).take 8) := by
  have bound := ofBE_lt ((data.drop va).take 8)
  have width : ((data.drop va).take 8).length = 8 := by
    rw [List.length_take, List.length_drop]
    omega
  rw [width] at bound
  rw [UInt64.toNat_ofNat']
  exact Nat.mod_eq_of_lt bound

/-- A byte of a region after a splice is the spliced one or the old one. -/
theorem getElem?_splice_eq_some {b src : Bytes} {start i : ℕ} {old : UInt8}
    (inside : start + src.length ≤ b.length) (before : b[i]? = some old) :
    (splice b start src)[i]? = some
      (if start ≤ i ∧ i < start + src.length then (src[i - start]?).getD 0 else old) := by
  rw [getElem?_splice inside]
  split_ifs with within
  · have bound : i - start < src.length := by omega
    rw [List.getElem?_eq_getElem bound]
    rfl
  · exact before

/-- The property that `lastWritten` tracks: every byte of every live region is the last one written
to it. -/
def HoldsLast (seen : List (StoreOp × StoreResult)) (m : Memory) : Prop :=
  ∀ r segment i, m r = some segment → i < segment.data.length →
    segment.data[i]? = some (lastWritten r i seen)

/-- A new region is all zero, and nothing was written to it. -/
theorem HoldsLast.register (holds : HoldsLast seen m) {draws : ℕ → UInt32}
    {pd : ProtectionDomain} {flags : AccessFlags} {len : UInt64} {l : LKey} :
    HoldsLast ((.register draws pd flags len, .registered (.ok (l, r))) :: seen)
      (m.set r (some ⟨flags, List.replicate len.toNat 0⟩)) := by
  intro r' segment i live bound
  by_cases same : r = r'
  · subst same
    rw [set_self] at live
    cases live
    rw [List.length_replicate] at bound
    rw [lastWritten, if_pos rfl]
    simp [bound]
  · rw [set_of_ne _ _ (Ne.symm same)] at live
    rw [lastWritten, if_neg same]
    exact holds r' segment i live bound

/-- A region that is gone holds no byte. -/
theorem HoldsLast.deregister (holds : HoldsLast seen m) {pd : ProtectionDomain} {lkey : LKey} :
    HoldsLast ((.deregister pd lkey, .deregistered (.ok ())) :: seen) (m.set r none) := by
  intro r' segment i live bound
  by_cases same : r' = r
  · subst same
    rw [set_self] at live
    cases live
  · rw [set_of_ne _ _ same] at live
    exact holds r' segment i live bound

/-- A write that succeeds is the last one for the bytes of its range. -/
theorem HoldsLast.write (holds : HoldsLast seen m) {offset : UInt64} {data : Bytes} :
    HoldsLast ((.writeRegion r offset data,
      .wrote (.ofExcept (m.write r offset.toNat data).1)) :: seen)
      (m.write r offset.toNat data).2 := by
  obtain ⟨code, failed⟩ | ⟨segment, live, inside, done⟩ := m.write_cases r offset.toNat data
  · rw [failed]
    exact holds
  rw [done]
  dsimp only
  intro r' segment' i live' bound
  by_cases same : r = r'
  · subst same
    rw [set_self] at live'
    cases live'
    rw [length_splice inside] at bound
    have before := holds r segment i live bound
    rw [getElem?_splice_eq_some inside before]
    simp [lastWritten, Outcome.ofExcept]
  · rw [set_of_ne _ _ (Ne.symm same)] at live'
    have earlier := holds r' segment' i live' bound
    simpa [lastWritten, Outcome.ofExcept, same] using earlier

/-- So is an atomic operation for the eight bytes of its word. -/
theorem HoldsLast.atomic (holds : HoldsLast seen m) {va : UInt64} {ty : UInt8}
    {operand1 operand2 : UInt64} :
    HoldsLast ((.atomicOp r va ty operand1 operand2,
      .updated (.ofExcept
        ((m.atomic r va.toNat ty operand1.toNat operand2.toNat).1.map UInt64.ofNat))) :: seen)
      (m.atomic r va.toNat ty operand1.toNat operand2.toNat).2 := by
  obtain ⟨code, failed⟩ | ⟨segment, update, live, known, inside, done⟩ :=
    m.atomic_cases r va.toNat ty operand1.toNat operand2.toNat
  · rw [failed]
    exact holds
  have word := toNat_ofNat_word inside
  rw [done]
  dsimp only
  intro r' segment' i live' bound
  -- the bytes of the word are the last ones written, the others are as before
  by_cases same : r = r'
  · subst same
    rw [set_self] at live'
    cases live'
    have fits : va.toNat + (toBE 8 (update (ofBE ((segment.data.drop va.toNat).take 8)))).length
        ≤ segment.data.length := by
      rw [length_toBE]
      exact inside
    rw [length_splice fits] at bound
    have before := holds r segment i live bound
    rw [getElem?_splice_eq_some fits before]
    simp [lastWritten, Outcome.ofExcept, Except.map, known, word]
  · rw [set_of_ne _ _ (Ne.symm same)] at live'
    have earlier := holds r' segment' i live' bound
    simpa [lastWritten, Outcome.ofExcept, Except.map, same] using earlier

/-- One step of the abstract memory keeps every byte equal to the last one written. -/
theorem HoldsLast.allows (holds : HoldsLast seen m) {op : StoreOp} {result : StoreResult}
    (step : Allows m op result m') : HoldsLast ((op, result) :: seen) m' := by
  cases step with
  | register free => exact holds.register
  | registerFails failed =>
      rename_i result
      intro r segment i live bound
      rcases result with ok | _ | _
      · exact absurd trivial failed
      · exact holds r segment i live bound
      · exact holds r segment i live bound
  | deregister live => exact holds.deregister
  | deregisterFails => exact holds
  | validate granted => exact holds
  | validateFails refused => exact holds
  | write => exact holds.write
  | read => exact holds
  | atomic => exact holds.atomic

/-- **Every byte of a live region is the last one written to it.** By induction over the history. -/
theorem Reaches.holdsLast (reached : Reaches seen m) : HoldsLast seen m := by
  induction reached with
  | start =>
      intro r segment i live
      cases live
  | next _ step ih => exact ih.allows step

end Memory

/-! ### The abstraction -/

namespace MemoryStore

/-- What a store means to a remote peer: an R_Key leads to an L_Key, the L_Key to a region, and the
region is a segment. -/
def toMemory (s : MemoryStore) : Memory := fun r =>
  (s.rkeyToLkey.lookup r.value).bind fun l =>
    (s.regions.lookup l).map fun e => ⟨e.accessFlags, e.data⟩

section Abstraction

variable {s : MemoryStore} {r : RKey}

/-- A new store means the empty memory. -/
theorem toMemory_new (maxRegions : ℕ) (maxTotalBytes : UInt64) :
    (new maxRegions maxTotalBytes).toMemory = Memory.empty := rfl

/-- The region under `l` is what its R_Key means. -/
theorem StoreInv.toMemory_eq (inv : StoreInv s) {l : UInt32} {e : MemoryRegionEntry}
    (found : s.regions.lookup l = some e) : s.toMemory e.rkey = some ⟨e.accessFlags, e.data⟩ := by
  have mapped := (inv.inverse e.rkey.value l).mpr ⟨e, found, rfl⟩
  simp [toMemory, mapped, found]

/-- An unused R_Key means nothing. -/
theorem StoreInv.toMemory_unused (inv : StoreInv s) (unused : r.value ∉ s.usedRkeys) :
    s.toMemory r = none := by
  rcases h : s.rkeyToLkey.lookup r.value with _ | l
  · simp [toMemory, h]
  · exact absurd (inv.used_of_lookup h) unused

/-- A live R_Key is the R_Key of a region. -/
theorem StoreInv.exists_of_toMemory (inv : StoreInv s) {r : RKey} {segment : Segment}
    (live : s.toMemory r = some segment) :
    ∃ l e, s.regions.lookup l = some e ∧ e.rkey = r ∧ segment = ⟨e.accessFlags, e.data⟩ := by
  obtain ⟨l, mapped, named⟩ := Option.bind_eq_some_iff.mp live
  obtain ⟨e, found, same⟩ := (inv.inverse r.value l).mp mapped
  rw [found] at named
  cases named
  exact ⟨l, e, found, RKey.ext same, rfl⟩

/-- **A sum over the memory** is the sum over the regions, since every live R_Key leads to one
region and every region has one. -/
theorem StoreInv.sum_toMemory (inv : StoreInv s) (f : Segment → ℕ) :
    s.toMemory.sum f = AssocMap.weight (fun e => f ⟨e.accessFlags, e.data⟩) s.regions := by
  let rkeyOf (l : UInt32) : RKey := (s.regions.lookup l).elim ⟨0⟩ MemoryRegionEntry.rkey
  have known {l : UInt32} (mem : l ∈ s.regions.keys.toFinset) :
      ∃ e, s.regions.lookup l = some e ∧ rkeyOf l = e.rkey := by
    obtain ⟨e, found⟩ := Option.isSome_iff_exists.mp
      (AList.lookup_isSome.mpr (List.mem_toFinset.mp mem))
    exact ⟨e, found, congrArg (fun o => o.elim ⟨0⟩ MemoryRegionEntry.rkey) found⟩
  -- L_Keys and live R_Keys correspond one to one, so the sums run over the same regions
  have injective : Set.InjOn rkeyOf s.regions.keys.toFinset := by
    intro l₁ mem₁ l₂ mem₂ same
    obtain ⟨e₁, found₁, key₁⟩ := known mem₁
    obtain ⟨e₂, found₂, key₂⟩ := known mem₂
    have keys : e₂.rkey.value = e₁.rkey.value := by rw [← key₁, ← key₂, same]
    have first := (inv.inverse e₁.rkey.value l₁).mpr ⟨e₁, found₁, rfl⟩
    have second := (inv.inverse e₁.rkey.value l₂).mpr ⟨e₂, found₂, keys⟩
    exact Option.some.inj (first.symm.trans second)
  have support : (Function.support fun r => (s.toMemory r).elim 0 f)
      ⊆ (s.regions.keys.toFinset.image rkeyOf : Finset RKey) := by
    intro r live
    rcases named : s.toMemory r with _ | segment
    · rw [Function.mem_support, named] at live
      exact absurd rfl live
    · obtain ⟨l, e, found, rfl, -⟩ := inv.exists_of_toMemory named
      refine Finset.mem_coe.mpr (Finset.mem_image.mpr ⟨l, ?_, ?_⟩)
      · exact List.mem_toFinset.mpr
          (AList.lookup_isSome.mp (Option.isSome_iff_exists.mpr ⟨e, found⟩))
      · exact congrArg (fun o => o.elim ⟨0⟩ MemoryRegionEntry.rkey) found
  rw [Memory.sum, finsum_eq_sum_of_support_subset _ support, Finset.sum_image injective,
    AssocMap.weight_eq_sum]
  refine Finset.sum_congr rfl fun l mem => ?_
  obtain ⟨e, found, key⟩ := known mem
  rw [key, inv.toMemory_eq found, found]
  rfl

/-- The memory has as many live keys as the store has regions. -/
theorem StoreInv.count_toMemory (inv : StoreInv s) :
    s.toMemory.count = AssocMap.size s.regions := by
  rw [Memory.count, inv.sum_toMemory, AssocMap.size_eq_weight]

/-- The bytes that live keys name are the byte total of the store. -/
theorem StoreInv.bytes_toMemory (inv : StoreInv s) :
    s.toMemory.bytes = s.totalRegisteredBytes.toNat := by
  rw [Memory.bytes, inv.sum_toMemory, inv.total]

/-- The opening of an access is granted exactly as the abstract memory grants it. -/
theorem access_of_entryFor_ok {required : AccessFlags} {l : UInt32} {e : MemoryRegionEntry}
    (granted : s.entryFor r required = .ok (l, e)) :
    s.toMemory.access r required = .ok ⟨e.accessFlags, e.data⟩ := by
  obtain ⟨mapped, found, right⟩ := entryFor_eq_ok.mp granted
  refine Memory.access_eq_ok.mpr ⟨?_, right⟩
  simp [toMemory, mapped, found]

/-- A refusal of an access is that of the abstract memory, with its code. -/
theorem access_of_entryFor_err {required : AccessFlags} {code : ErrorCode}
    (refused : s.entryFor r required = .err code) :
    s.toMemory.access r required = .error code := by
  unfold entryFor at refused
  unfold Memory.access toMemory
  rcases mapped : s.rkeyToLkey.lookup r.value with _ | l
  · rw [mapped] at refused
    cases refused
    rfl
  · rw [mapped] at refused
    simp only [Outcome.okOr_some, Outcome.ok_bind] at refused
    rcases found : s.regions.lookup l with _ | e
    · rw [found] at refused
      cases refused
      simp [found]
    · simp only [found, Outcome.okOr_some, Outcome.ok_bind] at refused
      split_ifs at refused with right
      cases refused
      simp [found, right]

/-- The R_Key that led to a region is the region's own. -/
theorem StoreInv.rkey_of_entryFor (inv : StoreInv s) {required : AccessFlags} {l : UInt32}
    {e : MemoryRegionEntry} (granted : s.entryFor r required = .ok (l, e)) : e.rkey = r := by
  obtain ⟨mapped, found, -⟩ := entryFor_eq_ok.mp granted
  obtain ⟨e', found', same⟩ := (inv.inverse r.value l).mp mapped
  rw [found] at found'
  cases found'
  exact RKey.ext same

/-- Overwriting a region's bytes changes the meaning of its R_Key only. -/
theorem StoreInv.toMemory_setData (inv : StoreInv s) {l : UInt32} {e : MemoryRegionEntry}
    (data : Bytes) (found : s.regions.lookup l = some e) :
    (s.setData l e data).toMemory = s.toMemory.set e.rkey (some ⟨e.accessFlags, data⟩) := by
  funext r'
  by_cases same : r' = e.rkey
  · subst same
    have mapped := (inv.inverse e.rkey.value l).mpr ⟨e, found, rfl⟩
    simp [toMemory, setData, mapped]
  · rw [Memory.set_of_ne _ _ same]
    unfold toMemory setData
    dsimp only
    rcases mapped : s.rkeyToLkey.lookup r'.value with _ | l'
    · rfl
    · have other : l' ≠ l := by
        rintro rfl
        obtain ⟨e', found', same'⟩ := (inv.inverse r'.value l').mp mapped
        rw [found] at found'
        cases found'
        exact same (RKey.ext same'.symm)
      simp [AList.lookup_insert_ne other]

/-- A registration gives a meaning to its new R_Key only. -/
theorem StoreInv.toMemory_withRegion (inv : StoreInv s) (pd : ProtectionDomain)
    (flags : AccessFlags) (len : UInt64) (val : UInt32) :
    (s.withRegion pd flags len val).toMemory
      = s.toMemory.set ⟨val⟩ (some ⟨flags, List.replicate len.toNat 0⟩) := by
  funext r'
  by_cases same : r' = ⟨val⟩
  · subst same
    simp [toMemory, withRegion]
  · have other : r'.value ≠ val := fun h => same (RKey.ext h)
    rw [Memory.set_of_ne _ _ same]
    unfold toMemory withRegion
    dsimp only
    rw [AList.lookup_insert_ne other]
    rcases mapped : s.rkeyToLkey.lookup r'.value with _ | l'
    · rfl
    · have live : l' ≠ s.nextLkey := by
        rintro rfl
        obtain ⟨e', found', -⟩ := (inv.inverse r'.value _).mp mapped
        rw [inv.nextLkey_free] at found'
        cases found'
      simp [AList.lookup_insert_ne live]

/-- A deregistration takes the meaning of one R_Key away. -/
theorem StoreInv.toMemory_withoutRegion (inv : StoreInv s) {lkey : LKey} {e : MemoryRegionEntry}
    (found : s.regions.lookup lkey.value = some e) :
    (s.withoutRegion lkey e).toMemory = s.toMemory.set e.rkey none := by
  funext r'
  by_cases same : r' = e.rkey
  · subst same
    simp [toMemory, withoutRegion]
  · have other : r'.value ≠ e.rkey.value := fun h => same (RKey.ext h)
    rw [Memory.set_of_ne _ _ same]
    unfold toMemory withoutRegion
    dsimp only
    rw [AList.lookup_erase_ne other]
    rcases mapped : s.rkeyToLkey.lookup r'.value with _ | l'
    · rfl
    · have elsewhere : l' ≠ lkey.value := by
        rintro rfl
        obtain ⟨e', found', same'⟩ := (inv.inverse r'.value _).mp mapped
        rw [found] at found'
        cases found'
        exact other same'.symm
      simp [AList.lookup_erase_ne elsewhere]

end Abstraction

/-! ### Simulation -/

section Simulation

variable {s : MemoryStore}

/-- `write_region` is the abstract write. -/
theorem writeRegion_refines (inv : StoreInv s) (r : RKey) (offset : UInt64) (data : Bytes) :
    ((writeRegion r offset data).run s).1
      = .ofExcept (s.toMemory.write r offset.toNat data).1 ∧
    ((writeRegion r offset data).run s).2.toMemory
      = (s.toMemory.write r offset.toNat data).2 := by
  rcases granted : s.entryFor r .remoteWrite with ⟨l, e⟩ | code | p
  · obtain ⟨-, found, -⟩ := entryFor_eq_ok.mp granted
    rw [writeRegion_run granted (inv.length_lt found), Memory.write,
      access_of_entryFor_ok granted]
    dsimp only
    split_ifs with inside
    · refine ⟨rfl, ?_⟩
      rw [inv.toMemory_setData _ found, inv.rkey_of_entryFor granted]
    · exact ⟨rfl, rfl⟩
  · rw [writeRegion_run_refused granted, Memory.write, access_of_entryFor_err granted]
    exact ⟨rfl, rfl⟩
  · exact absurd granted (entryFor_ne_panic _ _ _ _)

/-- `read_region` is the abstract read. -/
theorem readRegion_refines (inv : StoreInv s) (r : RKey) (offset len : UInt64) :
    s.readRegion r offset len = .ofExcept (s.toMemory.read r offset.toNat len.toNat) := by
  rcases granted : s.entryFor r .remoteRead with ⟨l, e⟩ | code | p
  · obtain ⟨-, found, -⟩ := entryFor_eq_ok.mp granted
    rw [readRegion_eq granted (inv.length_lt found), Memory.read, access_of_entryFor_ok granted]
    dsimp only
    split_ifs <;> rfl
  · rw [readRegion_refused granted, Memory.read, access_of_entryFor_err granted]
    rfl
  · exact absurd granted (entryFor_ne_panic _ _ _ _)

/-- The machine-word update of an atomic operation is the abstract one. -/
theorem atomicValue_cases (ty : UInt8) (word operand1 operand2 : UInt64) :
    (atomicValue ty word operand1 operand2 = none ∧
      Memory.atomicUpdate ty operand1.toNat operand2.toNat = none) ∨
    ∃ value update, atomicValue ty word operand1 operand2 = some value ∧
      Memory.atomicUpdate ty operand1.toNat operand2.toNat = some update ∧
      value.toNat = update word.toNat := by
  unfold atomicValue Memory.atomicUpdate
  by_cases cas : ty = atomicTypeCas
  · refine .inr ⟨_, _, if_pos cas, if_pos cas, ?_⟩
    simp only [UInt64.toNat_inj]
    split <;> rfl
  · rw [if_neg cas, if_neg cas]
    by_cases faa : ty = atomicTypeFaa
    · exact .inr ⟨_, _, if_pos faa, if_pos faa, UInt64.toNat_add _ _⟩
    · exact .inl ⟨if_neg faa, if_neg faa⟩

/-- `atomic_op` is the abstract atomic operation. -/
theorem atomicOp_refines (inv : StoreInv s) (r : RKey) (va : UInt64) (ty : UInt8)
    (operand1 operand2 : UInt64) :
    ((atomicOp r va ty operand1 operand2).run s).1 = .ofExcept
      ((s.toMemory.atomic r va.toNat ty operand1.toNat operand2.toNat).1.map UInt64.ofNat) ∧
    ((atomicOp r va ty operand1 operand2).run s).2.toMemory
      = (s.toMemory.atomic r va.toNat ty operand1.toNat operand2.toNat).2 := by
  rcases granted : s.entryFor r .remoteAtomic with ⟨l, e⟩ | code | p
  · obtain ⟨-, found, -⟩ := entryFor_eq_ok.mp granted
    rw [atomicOp_run granted (inv.length_lt found), Memory.atomic,
      access_of_entryFor_ok granted]
    dsimp only
    split_ifs with misaligned inside
    · exact ⟨rfl, rfl⟩
    · obtain ⟨unknown, unknown'⟩ | ⟨value, update, known, known', agree⟩ :=
        atomicValue_cases ty (wordAt e.data va.toNat) operand1 operand2
      · rw [unknown, unknown']
        exact ⟨rfl, rfl⟩
      · rw [known, known']
        refine ⟨rfl, ?_⟩
        -- eight bytes spell the same number as a machine word and as a natural number
        have word : (wordAt e.data va.toNat).toNat = ofBE ((e.data.drop va.toNat).take 8) :=
          Memory.toNat_ofNat_word inside
        dsimp only
        rw [inv.toMemory_setData _ found, inv.rkey_of_entryFor granted, putU64, agree, word]
    · exact ⟨rfl, rfl⟩
  · rw [atomicOp_run_refused granted, Memory.atomic, access_of_entryFor_err granted]
    exact ⟨rfl, rfl⟩
  · exact absurd granted (entryFor_ne_panic _ _ _ _)

/-- **One call simulates one step of the abstract memory**: it returns what the memory allows, and
means what the memory then is. -/
theorem step_refines (inv : StoreInv s) (op : StoreOp) :
    Memory.Allows s.toMemory op (step s op).1 (step s op).2.toMemory := by
  -- the two that change the keys by their specification, the accesses by their refinement
  cases op with
  | register draws pd flags len =>
      have ends := register_spec draws pd flags len s
      simp only [step, Prod.map]
      generalize (register draws pd flags len).run s = out at ends
      cases ends with
      | registered val room fits quota next nonzero fresh =>
          rw [id, inv.toMemory_withRegion]
          exact .register (inv.toMemory_unused fresh)
      | _ => exact .registerFails (by simp)
  | deregister pd lkey =>
      have ends := deregister_spec pd lkey s
      simp only [step, Prod.map]
      generalize (deregister pd lkey).run s = out at ends
      cases ends with
      | unknown => exact .deregisterFails
      | wrongDomain => exact .deregisterFails
      | underflow entry found same under => exact absurd (inv.covered found) (Nat.not_le.mpr under)
      | removed entry found =>
          rw [id, inv.toMemory_withoutRegion found]
          exact .deregister (by rw [inv.toMemory_eq found]; simp)
  | validateRkey r required =>
      simp only [step, validateRkey]
      rcases granted : s.entryFor r required with ⟨l, e⟩ | code | p
      · exact .validate (access_of_entryFor_ok granted)
      · exact .validateFails (access_of_entryFor_err granted)
      · exact absurd granted (entryFor_ne_panic _ _ _ _)
  | writeRegion r offset data =>
      obtain ⟨result, memory⟩ := writeRegion_refines inv r offset data
      simp only [step, Prod.map, id]
      rw [result, memory]
      exact .write
  | readRegion r offset len =>
      simp only [step]
      rw [readRegion_refines inv]
      exact .read
  | atomicOp r va ty operand1 operand2 =>
      obtain ⟨result, memory⟩ := atomicOp_refines inv r va ty operand1 operand2
      simp only [step, Prod.map, id]
      rw [result, memory]
      exact .atomic

/-- Every run of the store is a run of the abstract memory. -/
theorem reaches_after (maxRegions : ℕ) (maxTotalBytes : UInt64) (ops : List StoreOp) :
    Memory.Reaches (Machine.history step (new maxRegions maxTotalBytes) ops)
      ((new maxRegions maxTotalBytes).after ops).toMemory := by
  suffices StoreInv ((new maxRegions maxTotalBytes).after ops) ∧
      Memory.Reaches (Machine.history step (new maxRegions maxTotalBytes) ops)
        ((new maxRegions maxTotalBytes).after ops).toMemory from this.2
  refine Machine.run_induction
    (P := fun seen t => StoreInv t ∧ Memory.Reaches seen t.toMemory) ⟨storeInv_new _ _, ?_⟩ ?_ ops
  · rw [toMemory_new]
    exact .start
  · rintro seen t op ⟨inv, reached⟩
    exact ⟨inv.step op, .next reached (step_refines inv op)⟩

/-- An operation that returns an error changes nothing but the L_Key counter. -/
theorem step_of_isErr (inv : StoreInv s) {op : StoreOp} (failed : (step s op).1.IsErr) :
    (step s op).2 = { s with nextLkey := (step s op).2.nextLkey } := by
  cases op with
  | register draws pd flags len =>
      have ends := register_spec draws pd flags len s
      simp only [step, Prod.map, id] at failed ⊢
      generalize (register draws pd flags len).run s = out at ends failed
      cases ends with
      -- a region that cannot be allocated is a panic, not an error
      | allocation => exact absurd failed (by simp [StoreResult.IsErr])
      | registered => exact absurd failed (by simp [StoreResult.IsErr])
      | _ => rfl
  | deregister pd lkey =>
      have ends := deregister_spec pd lkey s
      simp only [step, Prod.map, id] at failed ⊢
      generalize (deregister pd lkey).run s = out at ends failed
      cases ends with
      | unknown => rfl
      | wrongDomain => rfl
      | underflow => exact absurd failed (by simp [StoreResult.IsErr])
      | removed => exact absurd failed (by simp [StoreResult.IsErr])
  | validateRkey r required => rfl
  | writeRegion r offset data =>
      simp only [step, Prod.map, id] at failed ⊢
      rcases granted : s.entryFor r .remoteWrite with ⟨l, e⟩ | code | p
      · obtain ⟨-, found, -⟩ := entryFor_eq_ok.mp granted
        rw [writeRegion_run granted (inv.length_lt found)] at failed ⊢
        split_ifs at failed ⊢ with inside
        · exact absurd failed (by simp [StoreResult.IsErr])
        · rfl
      · rw [writeRegion_run_refused granted]
      · exact absurd granted (entryFor_ne_panic _ _ _ _)
  | readRegion r offset len => rfl
  | atomicOp r va ty operand1 operand2 =>
      simp only [step, Prod.map, id] at failed ⊢
      rcases granted : s.entryFor r .remoteAtomic with ⟨l, e⟩ | code | p
      · obtain ⟨-, found, -⟩ := entryFor_eq_ok.mp granted
        rw [atomicOp_run granted (inv.length_lt found)] at failed ⊢
        split_ifs at failed ⊢ with misaligned inside
        · rfl
        · split at failed
          · exact absurd failed (by simp [StoreResult.IsErr])
          · rfl
        · rfl
      · rw [atomicOp_run_refused granted]
      · exact absurd granted (entryFor_ne_panic _ _ _ _)

/-- A successful write replaces the bytes of its range in one region, and nothing else. -/
theorem writeRegion_exact (inv : StoreInv s) {r : RKey} {offset : UInt64} {data : Bytes}
    {t : MemoryStore} (done : (writeRegion r offset data).run s = (.ok (), t)) :
    ∃ l e, s.regions.lookup l = some e ∧ e.rkey = r ∧
      t = s.setData l e (splice e.data offset.toNat data) ∧
      ∀ i, (splice e.data offset.toNat data)[i]? =
        if offset.toNat ≤ i ∧ i < offset.toNat + data.length then data[i - offset.toNat]?
        else e.data[i]? := by
  rcases granted : s.entryFor r .remoteWrite with ⟨l, e⟩ | code | p
  · obtain ⟨-, found, -⟩ := entryFor_eq_ok.mp granted
    rw [writeRegion_run granted (inv.length_lt found)] at done
    split_ifs at done with inside
    · cases done
      exact ⟨l, e, found, inv.rkey_of_entryFor granted, rfl, getElem?_splice inside⟩
    · cases done
  · rw [writeRegion_run_refused granted] at done
    cases done
  · exact absurd granted (entryFor_ne_panic _ _ _ _)

/-- A successful atomic operation returns the big-endian word that was there and
replaces exactly its eight bytes. -/
theorem atomicOp_exact (inv : StoreInv s) {r : RKey} {va : UInt64} {ty : UInt8}
    {operand1 operand2 original : UInt64} {t : MemoryStore}
    (done : (atomicOp r va ty operand1 operand2).run s = (.ok original, t)) :
    ∃ l e update, s.regions.lookup l = some e ∧ e.rkey = r ∧
      original.toNat = ofBE ((e.data.drop va.toNat).take 8) ∧
      Memory.atomicUpdate ty operand1.toNat operand2.toNat = some update ∧
      t = s.setData l e (splice e.data va.toNat (toBE 8 (update original.toNat))) ∧
      ∀ i, (splice e.data va.toNat (toBE 8 (update original.toNat)))[i]? =
        if va.toNat ≤ i ∧ i < va.toNat + 8 then (toBE 8 (update original.toNat))[i - va.toNat]?
        else e.data[i]? := by
  rcases granted : s.entryFor r .remoteAtomic with ⟨l, e⟩ | code | p
  · obtain ⟨-, found, -⟩ := entryFor_eq_ok.mp granted
    rw [atomicOp_run granted (inv.length_lt found)] at done
    split_ifs at done with misaligned inside
    · cases done
    · obtain ⟨unknown, -⟩ | ⟨value, update, known, known', agree⟩ :=
        atomicValue_cases ty (wordAt e.data va.toNat) operand1 operand2
      · rw [unknown] at done
        cases done
      · rw [known] at done
        cases done
        have fits : va.toNat + (toBE 8 (update (wordAt e.data va.toNat).toNat)).length
            ≤ e.data.length := by
          rw [length_toBE]
          exact inside
        -- the splice replaces the eight bytes of the word and no others
        have exactBytes := getElem?_splice fits
        rw [length_toBE] at exactBytes
        refine ⟨l, e, update, found, inv.rkey_of_entryFor granted,
          Memory.toNat_ofNat_word inside, known', ?_, exactBytes⟩
        rw [putU64, agree]
    · cases done
  · rw [atomicOp_run_refused granted] at done
    cases done
  · exact absurd granted (entryFor_ne_panic _ _ _ _)

/-- A read returns for each byte the last value written to it. -/
theorem readRegion_last (inv : StoreInv s) {seen : List (StoreOp × StoreResult)}
    (holds : Memory.HoldsLast seen s.toMemory) {r : RKey} {offset len : UInt64} {bytes : Bytes}
    (done : s.readRegion r offset len = .ok bytes) :
    bytes.length = len.toNat ∧
    ∀ i < len.toNat, bytes[i]? = some (Memory.lastWritten r (offset.toNat + i) seen) := by
  rcases granted : s.entryFor r .remoteRead with ⟨l, e⟩ | code | p
  · obtain ⟨-, found, -⟩ := entryFor_eq_ok.mp granted
    rw [readRegion_eq granted (inv.length_lt found)] at done
    split_ifs at done with inside
    cases done
    refine ⟨by rw [List.length_take, List.length_drop]; omega, ?_⟩
    intro i bound
    have live := inv.toMemory_eq found
    rw [inv.rkey_of_entryFor granted] at live
    rw [getElem?_drop_take, if_pos bound]
    exact holds r _ _ live (by dsimp only; omega)
  · rw [readRegion_refused granted] at done
    cases done
  · exact absurd granted (entryFor_ne_panic _ _ _ _)

/-- **A store behaves as the abstract memory.** `seen` is the history that led to `s`; the fields
say what the next call does, whatever it is. -/
structure ActsAsMemory (seen : List (StoreOp × StoreResult)) (s : MemoryStore) : Prop where
  /-- The history is a history of the abstract memory, and ends in what `s` means. -/
  reaches : Memory.Reaches seen s.toMemory
  /-- The next call, whatever it is, is a step of the abstract memory. -/
  simulates : ∀ op, Memory.Allows s.toMemory op (step s op).1 (step s op).2.toMemory
  /-- Writes return what the abstract write returns; in particular they do not panic. -/
  write_eq : ∀ r offset data, ((writeRegion r offset data).run s).1
    = .ofExcept (s.toMemory.write r offset.toNat data).1
  /-- Reads return what the abstract read returns. -/
  read_eq : ∀ r offset len, s.readRegion r offset len
    = .ofExcept (s.toMemory.read r offset.toNat len.toNat)
  /-- Atomic operations return what the abstract ones return. -/
  atomic_eq : ∀ r va ty operand1 operand2, ((atomicOp r va ty operand1 operand2).run s).1
    = .ofExcept
      ((s.toMemory.atomic r va.toNat ty operand1.toNat operand2.toNat).1.map UInt64.ofNat)
  /-- A successful write changes exactly the bytes of its range in its region. -/
  write_exact : ∀ r offset data t, (writeRegion r offset data).run s = (.ok (), t) →
    ∃ l e, s.regions.lookup l = some e ∧ e.rkey = r ∧
      t = s.setData l e (splice e.data offset.toNat data) ∧
      ∀ i, (splice e.data offset.toNat data)[i]? =
        if offset.toNat ≤ i ∧ i < offset.toNat + data.length then data[i - offset.toNat]?
        else e.data[i]?
  /-- A successful atomic operation returns the previous word and replaces its bytes. -/
  atomic_exact : ∀ r va ty operand1 operand2 original t,
    (atomicOp r va ty operand1 operand2).run s = (.ok original, t) →
    ∃ l e update, s.regions.lookup l = some e ∧ e.rkey = r ∧
      original.toNat = ofBE ((e.data.drop va.toNat).take 8) ∧
      Memory.atomicUpdate ty operand1.toNat operand2.toNat = some update ∧
      t = s.setData l e (splice e.data va.toNat (toBE 8 (update original.toNat))) ∧
      ∀ i, (splice e.data va.toNat (toBE 8 (update original.toNat)))[i]? =
        if va.toNat ≤ i ∧ i < va.toNat + 8 then (toBE 8 (update original.toNat))[i - va.toNat]?
        else e.data[i]?
  /-- A failing call leaves regions, key maps, used keys and the byte total alone. -/
  unchanged : ∀ op, (step s op).1.IsErr →
    (step s op).2 = { s with nextLkey := (step s op).2.nextLkey }
  /-- A read returns for each byte the last value written since the registration, and
  zero if there is none. -/
  read_last : ∀ r offset len bytes, s.readRegion r offset len = .ok bytes →
    bytes.length = len.toNat ∧
    ∀ i < len.toNat, bytes[i]? = some (Memory.lastWritten r (offset.toNat + i) seen)

/-- **The memory store refines the abstract memory.** After any run from a new store, with any
arguments and any draws, whatever the next call is. -/
theorem after_actsAsMemory (maxRegions : ℕ) (maxTotalBytes : UInt64) (ops : List StoreOp) :
    ActsAsMemory (Machine.history step (new maxRegions maxTotalBytes) ops)
      ((new maxRegions maxTotalBytes).after ops) := by
  have inv := storeInv_after maxRegions maxTotalBytes ops
  have reached := reaches_after maxRegions maxTotalBytes ops
  exact
    { reaches := reached
      simulates := fun op => step_refines inv op
      write_eq := fun r offset data => (writeRegion_refines inv r offset data).1
      read_eq := fun r offset len => readRegion_refines inv r offset len
      atomic_eq := fun r va ty operand1 operand2 =>
        (atomicOp_refines inv r va ty operand1 operand2).1
      write_exact := fun r offset data t done => writeRegion_exact inv done
      atomic_exact := fun r va ty operand1 operand2 original t done => atomicOp_exact inv done
      unchanged := fun op failed => step_of_isErr inv failed
      read_last := fun r offset len bytes done => readRegion_last inv reached.holdsLast done }

end Simulation

end MemoryStore

end Rdows
