import Rdows.Kv.Slot
import Rdows.Lib.Probe

/-!
# The key-value store over a remote region

`KvStore` (`kv.rs`) keeps an open-addressing hash table in a remote memory region, one slot per
entry, and reads and writes whole slots by RDMA.  Here the region itself is the receiver: an RDMA
read or write of a slot is a read or write of its bytes, and an access outside the region is refused
by the server.  That this is what the methods do over a real connection is a theorem of its own
(`Kv.Remote`); everything about the table is proved here, where nothing can interfere.

## One loop

The three operations run the same probe loop (`probeLoop`) and differ in what they do when it stops:
at an empty slot, at a slot with the key, or after all slots.  The loop is a parameterised
definition, so each branch of the source is a function that is handed to it.

## The region as a table

A region is `WellFormed` if every slot is zero or holds an encoded entry; it then *is* a table
(`tableOf`), the loop stops where `Probe.landing` says (`run_probeLoop`), and each operation has one
lemma per way the loop can end.  With these lemmas the bytes are done with: what the operations mean
is read off the table, in terms of `Lib.Probe`.

Linear probing wraps around at the last slot (`path`), and all 64 slots are visited before `put`
reports that the table is full.
-/

namespace Rdows

open Rust

namespace Kv

/-- `PutResult`, with the facts about the operation that the interface shows. -/
structure PutResult where
  operation : String
  slot : ℕ
  offset : String
  bytes : ℕ
  key : String
  value : String
  probes : ℕ
  update : Bool
  deriving DecidableEq, Repr

/-- `GetResult`, with the dump of the slot that was read. -/
structure GetResult where
  operation : String
  slot : ℕ
  offset : String
  bytes : ℕ
  key : String
  value : String
  probes : ℕ
  rawHex : List String
  deriving DecidableEq, Repr

/-- `DeleteResult`.  A key that was not found is reported in `found`, not as an error. -/
structure DeleteResult where
  operation : String
  slot : ℕ
  offset : String
  bytes : ℕ
  key : String
  probes : ℕ
  found : Bool
  deriving DecidableEq, Repr

/-- `SlotInfo`: one slot of the listing, occupied or not. -/
structure SlotInfo where
  index : ℕ
  offset : String
  occupied : Bool
  key : Option String
  value : Option String
  deriving DecidableEq, Repr

/-- A method of the store; the receiver is the remote region. -/
abbrev KvMethod := Method Bytes KvError

/-- The bytes of a slot. -/
def slotAt (region : Bytes) (slotIndex : ℕ) : Bytes :=
  (region.drop (slotIndex * slotSize)).take slotSize

/-- `format!("0x{:04X}", idx * SLOT_SIZE)`. -/
def slotOffset (idx : ℕ) : String := "0x" ++ hexPad 4 (idx * slotSize)

/-- `read_slot`.  The server refuses a read that leaves the region. -/
def readSlot (slotIndex : ℕ) : KvMethod Bytes := do
  let region ← Method.get
  if slotIndex * slotSize + slotSize ≤ region.length then return slotAt region slotIndex
  else Method.throw (.rdma (.protocol .errBounds))

/-- `write_slot`.  The server refuses a write that leaves the region, and nothing is changed
then. -/
def writeSlot (slotIndex : ℕ) (slotData : Bytes) : KvMethod Unit := do
  let region ← Method.get
  if slotIndex * slotSize + slotData.length ≤ region.length then
    Method.modify fun region => splice region (slotIndex * slotSize) slotData
  else Method.throw (.rdma (.protocol .errBounds))

/-- The loop `for i in 0..SLOT_COUNT` of `put`, `get` and `delete`, from step `i` with `left`
steps to go.  `empty` and `found` are what the caller does at the slot where it stops (they
get the slot's index and the number of probes), `exhausted` what it does after the loop. -/
def probeLoop {α : Type} (key : String) (empty : ℕ → ℕ → KvMethod α)
    (found : ℕ → ℕ → Bytes → String → KvMethod α) (exhausted : KvMethod α) :
    ℕ → ℕ → KvMethod α
  | _, 0 => exhausted
  | i, left + 1 => do
      let idx := (hashKey (utf8Bytes key) + i) % slotCount
      let slot ← readSlot idx
      -- `decode_slot` of an empty slot ends the search: no key is ever placed behind one
      match ← Method.lift (decodeSlot slot) with
      | none => empty idx (i + 1)
      | some (existingKey, value) =>
          if existingKey = key then found idx (i + 1) slot value
          else probeLoop key empty found exhausted (i + 1) left

/-- The two branches of `put` that write: they differ in the flag they report. -/
def putAt (key value : String) (update : Bool) (idx probes : ℕ) : KvMethod PutResult := do
  let newSlot ← Method.lift (encodeSlot key value)
  writeSlot idx newSlot
  return {
    operation := "RDMA_WRITE", slot := idx, offset := slotOffset idx, bytes := slotSize
    key, value, probes, update }

/-- `put`.  The limits are checked first; then the entry goes to the first slot that is empty or has
the key. -/
def put (key value : String) : KvMethod PutResult :=
  if (utf8Bytes key).length > maxKeyLen then Method.throw .keyTooLong
  else if (utf8Bytes value).length > maxValueLen then Method.throw .valueTooLong
  else
    probeLoop key (putAt key value false) (fun idx probes _ _ => putAt key value true idx probes)
      (Method.throw .tableFull) 0 slotCount

/-- `get`.  The search ends at the first empty slot. -/
def get (key : String) : KvMethod (Option GetResult) :=
  probeLoop key (fun _ _ => return none)
    (fun idx probes slot value => do
      let rawHex ← Method.lift (slotHexLines slot)
      return some {
        operation := "RDMA_READ", slot := idx, offset := slotOffset idx, bytes := slotSize
        key, value, probes, rawHex })
    (return none) 0 slotCount

/-- `delete`.  The slot is zeroed, with no marker left behind.  When all slots hold other keys, the
result names the home slot. -/
def delete (key : String) : KvMethod DeleteResult :=
  probeLoop key
    (fun idx probes => return {
      operation := "RDMA_WRITE", slot := idx, offset := slotOffset idx, bytes := slotSize
      key, probes, found := false })
    (fun idx probes _ _ => do
      writeSlot idx (List.replicate slotSize 0)
      return {
        operation := "RDMA_WRITE", slot := idx, offset := slotOffset idx, bytes := slotSize
        key, probes, found := true })
    (return {
      operation := "RDMA_READ", slot := hashKey (utf8Bytes key)
      offset := slotOffset (hashKey (utf8Bytes key)), bytes := slotSize
      key, probes := slotCount, found := false })
    0 slotCount

/-- One entry of the listing. -/
def slotInfo (idx : ℕ) (entry : Option (String × String)) : SlotInfo where
  index := idx
  offset := slotOffset idx
  occupied := entry.isSome
  key := entry.map Prod.fst
  value := entry.map Prod.snd

/-- The loop of `dump_slots`. -/
def dumpSlotsLoop : List ℕ → KvMethod (List SlotInfo)
  | [] => return []
  | idx :: rest => do
      let slot ← readSlot idx
      let entry ← Method.lift (decodeSlot slot)
      let slots ← dumpSlotsLoop rest
      return slotInfo idx entry :: slots

/-- `dump_slots`. -/
def dumpSlots : KvMethod (List SlotInfo) := dumpSlotsLoop (List.range slotCount)

/-! ### The region as a table -/

/-- The slot visited at step `m` of probing for `key`: the home slot and those behind it, around the
table. -/
def path (key : String) (m : ℕ) : Fin slotCount :=
  ⟨(hashKey (utf8Bytes key) + m) % slotCount, Nat.mod_lt _ (by decide)⟩

/-- The table a region holds.  A slot that cannot be decoded counts as empty here; a well-formed
region has none. -/
def tableOf (region : Bytes) : Fin slotCount → Option (String × String) := fun i =>
  match decodeSlot (slotAt region i) with
  | .ok entry => entry
  | _ => none

/-- The step at which probing for a key stops. -/
abbrev landing (region : Bytes) (key : String) : Option ℕ :=
  Probe.landing path slotCount (tableOf region) key

/-- The value probing for a key finds. -/
abbrev lookup (region : Bytes) (key : String) : Option String :=
  Probe.lookup path slotCount (tableOf region) key

/-- The bytes of a slot are zero, or an encoded entry that fits.  Zeros stand for no entry. -/
def Encodes (slot : Bytes) : Option (String × String) → Prop
  | none => slot = List.replicate slotSize 0
  | some (key, value) => (utf8Bytes key).length ≤ maxKeyLen ∧
      (utf8Bytes value).length ≤ maxValueLen ∧ encodeSlot key value = .ok slot

/-- Every slot of the region is zero or an encoded entry, and the region has its full size.  Whether
keys are stored twice or out of reach is another matter. -/
structure WellFormed (region : Bytes) : Prop where
  length : region.length = mrSize
  slots : ∀ i : Fin slotCount, Encodes (slotAt region i) (tableOf region i)

theorem Encodes.decodeSlot_eq {slot : Bytes} {entry : Option (String × String)}
    (h : Encodes slot entry) : decodeSlot slot = .ok entry := by
  rcases entry with _ | ⟨key, value⟩
  · rw [show slot = _ from h, decodeSlot_zeros]
  · obtain ⟨hkey, hvalue, encoded⟩ := h
    obtain ⟨slot', encoded', -, decoded⟩ := decodeSlot_encodeSlot hkey hvalue
    rw [encoded] at encoded'
    cases encoded'
    exact decoded

theorem Encodes.length_eq {slot : Bytes} {entry : Option (String × String)}
    (h : Encodes slot entry) : slot.length = slotSize := by
  rcases entry with _ | ⟨key, value⟩
  · rw [show slot = _ from h, List.length_replicate]
  · obtain ⟨hkey, hvalue, encoded⟩ := h
    obtain ⟨slot', encoded', whole, -⟩ := decodeSlot_encodeSlot hkey hvalue
    rw [encoded] at encoded'
    cases encoded'
    exact whole

section Table

variable {region : Bytes}

theorem slot_inside (size : region.length = mrSize) (i : Fin slotCount) :
    i * slotSize + slotSize ≤ region.length := by
  have lt : (i : ℕ) < 64 := i.isLt
  have region_size : region.length = 64 * 1024 := size
  rw [region_size, slotSize]
  omega

/-- Writing a slot changes that slot only. -/
theorem slotAt_splice (size : region.length = mrSize) {slot : Bytes}
    (whole : slot.length = slotSize) (i j : Fin slotCount) :
    slotAt (splice region (i * slotSize) slot) j = if j = i then slot else slotAt region j := by
  have inside : i * slotSize + slot.length ≤ region.length := by
    rw [whole]
    exact slot_inside size i
  by_cases same : j = i
  · subst same
    have written := segment_splice_self inside
    rw [whole] at written
    rw [if_pos rfl, slotAt, written]
  · have apart : (j : ℕ) ≠ i := fun h => same (Fin.ext h)
    rw [if_neg same, slotAt, slotAt, segment_splice_of_disjoint inside]
    rw [whole, slotSize]
    omega

/-- **A slot write updates the table** at that slot, if what is written is zero or an encoded
entry. -/
theorem WellFormed.write (wf : WellFormed region) {slot : Bytes}
    {entry : Option (String × String)} (encodes : Encodes slot entry) (i : Fin slotCount) :
    WellFormed (splice region (i * slotSize) slot) ∧
      tableOf (splice region (i * slotSize) slot) = Function.update (tableOf region) i entry := by
  have written := slotAt_splice wf.length encodes.length_eq i
  -- the slots do not overlap: only the slot that is written is decoded anew
  have table : tableOf (splice region (i * slotSize) slot)
      = Function.update (tableOf region) i entry := by
    funext j
    rw [tableOf, written]
    by_cases same : j = i
    · subst same
      rw [if_pos rfl, encodes.decodeSlot_eq, Function.update_self]
    · rw [if_neg same, Function.update_of_ne same, tableOf]
  refine ⟨⟨?_, fun j => ?_⟩, table⟩
  · rw [length_splice, wf.length]
    rw [encodes.length_eq]
    exact slot_inside wf.length i
  · rw [table, written]
    by_cases same : j = i
    · subst same
      rw [if_pos rfl, Function.update_self]
      exact encodes
    · rw [if_neg same, Function.update_of_ne same]
      exact wf.slots j

theorem run_readSlot (wf : WellFormed region) (i : Fin slotCount) :
    (readSlot i).run region = (.ok (slotAt region i), region) := by
  simp [readSlot, slot_inside wf.length i]

theorem run_writeSlot (wf : WellFormed region) (i : Fin slotCount) {slot : Bytes}
    (whole : slot.length = slotSize) :
    (writeSlot i slot).run region = (.ok (), splice region (i * slotSize) slot) := by
  simp [writeSlot, whole, slot_inside wf.length i]

/-! ### The probe loop -/

section Loop

variable {α : Type} {key : String} {empty : ℕ → ℕ → KvMethod α}
  {found : ℕ → ℕ → Bytes → String → KvMethod α} {exhausted : KvMethod α}

/-- One step of the loop: stop at a slot that is empty or holds the key, else go on. -/
theorem run_probeLoop_succ (wf : WellFormed region) (i left : ℕ) :
    (probeLoop key empty found exhausted i (left + 1)).run region =
      match tableOf region (path key i) with
      | none => (empty (path key i) (i + 1)).run region
      | some (existingKey, value) =>
          if existingKey = key then
            (found (path key i) (i + 1) (slotAt region (path key i)) value).run region
          else (probeLoop key empty found exhausted (i + 1) left).run region := by
  have read : (readSlot ((hashKey (utf8Bytes key) + i) % slotCount)).run region
      = (.ok (slotAt region (path key i)), region) := run_readSlot wf (path key i)
  have decoded := (wf.slots (path key i)).decodeSlot_eq
  rw [probeLoop, Method.run_bind_of_ok read, Method.run_bind, Method.run_lift, decoded]
  dsimp only
  rcases tableOf region (path key i) with _ | ⟨existingKey, value⟩
  · rfl
  · exact Method.run_ite _ _ _ _

/-- **The loop stops at the landing**, and does there what the caller wants.  The induction is on
the number of steps to go; the steps already passed have not stopped. -/
theorem run_probeLoop (wf : WellFormed region) {i left : ℕ} (total : i + left = slotCount)
    (passed : ∀ l < i, Probe.stops path (tableOf region) key l = false) :
    (probeLoop key empty found exhausted i left).run region =
      match landing region key with
      | none => exhausted.run region
      | some m =>
          match tableOf region (path key m) with
          | none => (empty (path key m) (m + 1)).run region
          | some (_, value) =>
              (found (path key m) (m + 1) (slotAt region (path key m)) value).run region := by
  -- Induction on the steps left; `passed` is the loop invariant.
  induction left generalizing i with
  | zero =>
      have none_stops : landing region key = none := by
        refine Option.eq_none_iff_forall_not_mem.mpr fun m hm => ?_
        obtain ⟨lt, stop, -⟩ := Probe.landing_eq_some.mp hm
        rw [passed m (by omega)] at stop
        cases stop
      rw [none_stops]
      rfl
  | succ left ih =>
      rw [run_probeLoop_succ wf]
      rcases slot : tableOf region (path key i) with _ | ⟨existingKey, value⟩
      · have here : landing region key = some i := Probe.landing_eq_some.mpr
          ⟨by omega, Probe.stops_iff.mpr (.inl slot), passed⟩
        simp only [here, slot]
      · dsimp only
        by_cases same : existingKey = key
        · subst same
          have here : landing region existingKey = some i := Probe.landing_eq_some.mpr
            ⟨by omega, Probe.stops_iff.mpr (.inr ⟨value, slot⟩), passed⟩
          simp only [here, slot, if_true]
        · rw [if_neg same]
          refine ih (by omega) fun l hl => ?_
          rcases Nat.lt_succ_iff_lt_or_eq.mp hl with before | rfl
          · exact passed l before
          · simp [Probe.stops, slot, same]

variable {m : ℕ}

theorem run_probeLoop_empty (wf : WellFormed region) (land : landing region key = some m)
    (slot : tableOf region (path key m) = none) :
    (probeLoop key empty found exhausted 0 slotCount).run region
      = (empty (path key m) (m + 1)).run region := by
  rw [run_probeLoop wf (Nat.zero_add _) (fun l hl => absurd hl (Nat.not_lt_zero l)), land]
  dsimp only
  rw [slot]

theorem run_probeLoop_found (wf : WellFormed region) (land : landing region key = some m)
    {existingKey value : String} (slot : tableOf region (path key m) = some (existingKey, value)) :
    (probeLoop key empty found exhausted 0 slotCount).run region
      = (found (path key m) (m + 1) (slotAt region (path key m)) value).run region := by
  rw [run_probeLoop wf (Nat.zero_add _) (fun l hl => absurd hl (Nat.not_lt_zero l)), land]
  dsimp only
  rw [slot]

theorem run_probeLoop_exhausted (wf : WellFormed region) (land : landing region key = none) :
    (probeLoop key empty found exhausted 0 slotCount).run region = exhausted.run region := by
  rw [run_probeLoop wf (Nat.zero_add _) (fun l hl => absurd hl (Nat.not_lt_zero l)), land]

end Loop

/-! ### The operations on a well-formed region -/

variable {key value : String} {m : ℕ}

/-- The region with the bytes of one slot replaced. -/
abbrev withSlot (region : Bytes) (i : Fin slotCount) (slot : Bytes) : Bytes :=
  splice region (i * slotSize) slot

/-- Both writing branches of `put`. -/
theorem run_putAt (wf : WellFormed region) {slot : Bytes}
    (encodes : Encodes slot (some (key, value))) (update : Bool) (i : Fin slotCount) (probes : ℕ) :
    (putAt key value update i probes).run region
      = (.ok {
          operation := "RDMA_WRITE", slot := i, offset := slotOffset i, bytes := slotSize
          key, value, probes, update }, withSlot region i slot) := by
  rw [putAt, encodes.2.2, Method.run_bind, Method.run_lift]
  dsimp only
  rw [Method.run_bind_of_ok (run_writeSlot wf i encodes.length_eq)]
  rfl

/-- `put` writes the entry to the slot where probing stops, and reports whether the slot was
occupied. -/
theorem run_put_encoded (wf : WellFormed region) {slot : Bytes}
    (encodes : Encodes slot (some (key, value))) (land : landing region key = some m) :
    (put key value).run region
      = (.ok {
          operation := "RDMA_WRITE", slot := path key m, offset := slotOffset (path key m)
          bytes := slotSize, key, value, probes := m + 1
          update := (tableOf region (path key m)).isSome },
        withSlot region (path key m) slot) := by
  rw [put, if_neg (Nat.not_lt.mpr encodes.1), if_neg (Nat.not_lt.mpr encodes.2.1)]
  rcases found : tableOf region (path key m) with _ | ⟨existingKey, old⟩
  · rw [run_probeLoop_empty wf land found]
    exact run_putAt wf encodes false (path key m) (m + 1)
  · rw [run_probeLoop_found wf land found]
    exact run_putAt wf encodes true (path key m) (m + 1)

/-- The slot then holds the new entry. -/
theorem run_put (wf : WellFormed region) (hkey : (utf8Bytes key).length ≤ maxKeyLen)
    (hvalue : (utf8Bytes value).length ≤ maxValueLen) (land : landing region key = some m) :
    ∃ region', (put key value).run region
        = (.ok {
            operation := "RDMA_WRITE", slot := path key m, offset := slotOffset (path key m)
            bytes := slotSize, key, value, probes := m + 1
            update := (tableOf region (path key m)).isSome }, region') ∧
      WellFormed region' ∧
      tableOf region' = Function.update (tableOf region) (path key m) (some (key, value)) := by
  obtain ⟨slot, encoded, -, -⟩ := decodeSlot_encodeSlot hkey hvalue
  have encodes : Encodes slot (some (key, value)) := ⟨hkey, hvalue, encoded⟩
  exact ⟨_, run_put_encoded wf encodes land, wf.write encodes _⟩

/-- `put` fails, and changes nothing, if probing does not stop. -/
theorem run_put_full (wf : WellFormed region) (hkey : (utf8Bytes key).length ≤ maxKeyLen)
    (hvalue : (utf8Bytes value).length ≤ maxValueLen) (land : landing region key = none) :
    (put key value).run region = (.err .tableFull, region) := by
  rw [put, if_neg (Nat.not_lt.mpr hkey), if_neg (Nat.not_lt.mpr hvalue),
    run_probeLoop_exhausted wf land, Method.run_throw]

/-- What probing finds, by the way it ends: nothing, if it passes over all slots. -/
theorem lookup_of_exhausted (land : landing region key = none) : lookup region key = none := by
  simp [lookup, Probe.lookup, land]

theorem lookup_of_landing (land : landing region key = some m) :
    lookup region key = (tableOf region (path key m)).map Prod.snd := by
  simp [lookup, Probe.lookup, land]

/-- `get` of a stored key returns the entry of the slot where it is found. -/
theorem run_get_found (wf : WellFormed region) (land : landing region key = some m)
    {existingKey : String} (slot : tableOf region (path key m) = some (existingKey, value)) :
    ∃ rawHex, (get key).run region
      = (.ok (some {
          operation := "RDMA_READ", slot := path key m, offset := slotOffset (path key m)
          bytes := slotSize, key, value, probes := m + 1, rawHex }), region) := by
  obtain ⟨lines, dump⟩ := slotHexLines_eq_ok (wf.slots (path key m)).length_eq
  rw [get, run_probeLoop_found wf land slot, dump, Method.run_bind, Method.run_lift]
  exact ⟨lines, rfl⟩

/-- `get` returns the value probing finds and leaves the region alone. -/
theorem run_get (wf : WellFormed region) (key : String) :
    ∃ result, (get key).run region = (.ok result, region) ∧
      result.map GetResult.value = lookup region key := by
  rcases land : landing region key with _ | m
  · refine ⟨none, ?_, (lookup_of_exhausted land).symm⟩
    rw [get, run_probeLoop_exhausted wf land, Method.run_pure]
  · rw [lookup_of_landing land]
    rcases slot : tableOf region (path key m) with _ | ⟨existingKey, value⟩
    · refine ⟨none, ?_, rfl⟩
      rw [get, run_probeLoop_empty wf land slot, Method.run_pure]
    · obtain ⟨lines, run⟩ := run_get_found wf land slot
      exact ⟨_, run, rfl⟩

/-- `delete` of a stored key zeroes the slot where it is found. -/
theorem run_delete_zeroes (wf : WellFormed region) (land : landing region key = some m)
    {existingKey : String} (slot : tableOf region (path key m) = some (existingKey, value)) :
    (delete key).run region
      = (.ok {
          operation := "RDMA_WRITE", slot := path key m, offset := slotOffset (path key m)
          bytes := slotSize, key, probes := m + 1, found := true },
        withSlot region (path key m) (List.replicate slotSize 0)) := by
  rw [delete, run_probeLoop_found wf land slot,
    Method.run_bind_of_ok (run_writeSlot wf _ List.length_replicate)]
  rfl

/-- The slot is then empty. -/
theorem run_delete_found (wf : WellFormed region) (land : landing region key = some m)
    {existingKey : String} (slot : tableOf region (path key m) = some (existingKey, value)) :
    ∃ region', (delete key).run region
        = (.ok {
            operation := "RDMA_WRITE", slot := path key m, offset := slotOffset (path key m)
            bytes := slotSize, key, probes := m + 1, found := true }, region') ∧
      WellFormed region' ∧
      tableOf region' = Function.update (tableOf region) (path key m) none :=
  have zero : Encodes (List.replicate slotSize 0) none := rfl
  ⟨_, run_delete_zeroes wf land slot, wf.write zero (path key m)⟩

/-- `delete` of a key that probing does not find changes nothing. -/
theorem run_delete_absent (wf : WellFormed region) (absent : lookup region key = none) :
    ∃ result, (delete key).run region = (.ok result, region) ∧ result.found = false := by
  rcases land : landing region key with _ | m
  · rw [delete, run_probeLoop_exhausted wf land, Method.run_pure]
    exact ⟨_, rfl, rfl⟩
  · have slot : tableOf region (path key m) = none := by
      rw [lookup_of_landing land] at absent
      exact Option.map_eq_none_iff.mp absent
    rw [delete, run_probeLoop_empty wf land slot, Method.run_pure]
    exact ⟨_, rfl, rfl⟩

/-- `dump_slots` lists the table, slot by slot, and changes nothing. -/
theorem run_dumpSlots (wf : WellFormed region) :
    dumpSlots.run region
      = (.ok ((List.finRange slotCount).map fun i : Fin slotCount =>
          slotInfo i (tableOf region i)), region) := by
  have loop (indices : List (Fin slotCount)) : (dumpSlotsLoop (indices.map Fin.val)).run region
      = (.ok (indices.map fun i : Fin slotCount => slotInfo i (tableOf region i)), region) := by
    induction indices with
    | nil => rfl
    | cons i indices ih =>
        rw [List.map_cons, dumpSlotsLoop, Method.run_bind_of_ok (run_readSlot wf i),
          (wf.slots i).decodeSlot_eq, Method.run_bind, Method.run_lift]
        dsimp only
        rw [Method.run_bind_of_ok ih, Method.run_pure, List.map_cons]
  have all := loop (List.finRange slotCount)
  rwa [List.map_coe_finRange_eq_range] at all

end Table

end Kv

end Rdows
