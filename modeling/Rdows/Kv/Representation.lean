import Rdows.Kv.Operations

/-!
# The slots over whole runs

`decode_slot` and `slot_hex_lines` take the lengths they slice by from the bytes of the slot, and
those come from remote memory.  That they never slice outside the slot is therefore no property of
theirs, but of the bytes that were ever written: every slot is zero or the encoding of a key and a
value within the limits, after any calls with any strings.

## Calls that fail half-way

A call makes at most one write, as its last RDMA operation.  So if an operation fails, the call ends
with that error, and the region is what it was before the call or, if the failure was that of a
write that took place all the same, what it is after it.  `Link` is the choice between these for one
call, and a run makes it anew for each (`perform`).  Nothing more is assumed of the connection.

## What follows for one slot

The areas of the fields do not overlap (`AreasDisjoint`), a slot can be read, decoded and dumped
without a panic at every point of every run, and what is decoded is what was encoded.
-/

namespace Rdows

open Rust

namespace Kv

/-- A call of a method of the store, with any strings: the limits are checked by `put` itself. -/
inductive Call where
  | put (key value : String)
  | get (key : String)
  | delete (key : String)
  | dumpSlots
  deriving DecidableEq

/-- What becomes of the RDMA operations of a call: all succeed, or one of them fails. -/
inductive Link where
  | works
  | fails (error : RdowsError) (written : Bool)
  deriving DecidableEq

/-- The call while all RDMA operations succeed, without what it returns: only the region matters
here. -/
def Call.run : Call → Bytes → Outcome KvError Unit × Bytes
  | put key value => ((Kv.put key value).mapValue fun _ => ()).run
  | get key => ((Kv.get key).mapValue fun _ => ()).run
  | delete key => ((Kv.delete key).mapValue fun _ => ()).run
  | dumpSlots => (Kv.dumpSlots.mapValue fun _ => ()).run

/-- Make a call.  If an RDMA operation fails, the call reports its error, and the region is the old
one or the new one. -/
def perform (region : Bytes) (input : Call × Link) : Outcome KvError Unit × Bytes :=
  match input.2 with
  | .works => input.1.run region
  | .fails error written => (.err (.rdma error), if written then (input.1.run region).2 else region)

/-- The region after a list of calls. -/
abbrev reached (inputs : List (Call × Link)) : Bytes := Machine.exec perform emptyRegion inputs

variable {region : Bytes}

/-! ### One call -/

/-- Whether a call panics does not depend on what it returns, so calls of different types can be put
into one list. -/
theorem Sound.mapValue {α : Type} {x : KvMethod α} (sound : Sound (x.run region)) :
    Sound ((x.mapValue fun _ => ()).run region) := by
  rw [Method.run_mapValue]
  refine ⟨?_, sound.2⟩
  rcases outcome : (x.run region).1 with a | e | p
  · exact id
  · exact id
  · refine absurd ?_ sound.1
    rw [outcome]
    trivial

theorem WellFormed.dumpSlots (wf : WellFormed region) : Sound (dumpSlots.run region) := by
  rw [run_dumpSlots wf]
  exact ⟨id, wf⟩

theorem WellFormed.run (wf : WellFormed region) (call : Call) : Sound (call.run region) := by
  cases call with
  | put key value => exact (wf.put key value).mapValue
  | get key => exact (wf.get key).mapValue
  | delete key => exact (wf.delete key).mapValue
  | dumpSlots => exact wf.dumpSlots.mapValue

/-- **A call does not panic, and keeps every slot zero or an encoded entry**, whatever becomes of
its RDMA operations. -/
theorem WellFormed.perform (wf : WellFormed region) (input : Call × Link) :
    Sound (perform region input) := by
  obtain ⟨call, link⟩ := input
  cases link with
  | works => exact wf.run call
  | fails error written =>
      cases written with
      | false => exact ⟨id, wf⟩
      | true => exact ⟨id, (wf.run call).2⟩

theorem wellFormed_reached (inputs : List (Call × Link)) : WellFormed (reached inputs) :=
  Machine.exec_induction wellFormed_emptyRegion (fun _ input wf => (wf.perform input).2) inputs

/-! ### One slot -/

/-- The area of each field ends before the next one starts, and the last one with the slot.  Writing
one field cannot change another. -/
structure AreasDisjoint (key value : Bytes) : Prop where
  status : offStatus + 1 ≤ offKeyLen
  keyLen : offKeyLen + 2 ≤ offValLen
  valLen : offValLen + 2 ≤ offKey
  key : offKey + key.length ≤ offValue
  value : offValue + value.length ≤ slotSize

theorem disjoint_of_fits {key value : Bytes} (hkey : key.length ≤ maxKeyLen)
    (hvalue : value.length ≤ maxValueLen) : AreasDisjoint key value where
  status := by decide
  keyLen := by decide
  valLen := by decide
  key := Nat.add_le_add_left hkey offKey
  value := Nat.add_le_add_left hvalue offValue

theorem Encodes.zeros_or_encoded {slot : Bytes} {entry : Option (String × String)}
    (h : Encodes slot entry) :
    slot = List.replicate slotSize 0 ∨ ∃ key value, (utf8Bytes key).length ≤ maxKeyLen ∧
      (utf8Bytes value).length ≤ maxValueLen ∧ encodeSlot key value = .ok slot := by
  rcases entry with _ | ⟨key, value⟩
  · exact .inl h
  · exact .inr ⟨key, value, h⟩

/-- **The representation of the slots.**

* A key and a value within the limits are encoded into the areas of a slot, which are disjoint and
  inside it, and decoded back from them.
* After any calls every slot is zero or such an encoding; it is read, decoded and dumped without a
  slice outside of it, and so no call ever panics. -/
theorem slots_represented :
    (∀ key value, (utf8Bytes key).length ≤ maxKeyLen → (utf8Bytes value).length ≤ maxValueLen →
      ∃ slot, encodeSlot key value = .ok slot ∧ slot.length = slotSize ∧
        decodeSlot slot = .ok (some (key, value)) ∧
        slot = slotLayout (utf8Bytes key) (utf8Bytes value) ∧
        AreasDisjoint (utf8Bytes key) (utf8Bytes value)) ∧
    ∀ inputs : List (Call × Link),
      (∀ i : Fin slotCount, slotAt (reached inputs) i = List.replicate slotSize 0 ∨
        ∃ key value, (utf8Bytes key).length ≤ maxKeyLen ∧
          (utf8Bytes value).length ≤ maxValueLen ∧
          encodeSlot key value = .ok (slotAt (reached inputs) i)) ∧
      (∀ i : Fin slotCount,
        (readSlot i).run (reached inputs) = (.ok (slotAt (reached inputs) i), reached inputs) ∧
        (decodeSlot (slotAt (reached inputs) i)).IsOk ∧
        (slotHexLines (slotAt (reached inputs) i)).IsOk) ∧
      ∀ input, ¬ (perform (reached inputs) input).1.IsPanic := by
  constructor
  · intro key value hkey hvalue
    obtain ⟨slot, encoded, whole, decoded⟩ := decodeSlot_encodeSlot hkey hvalue
    have layout : slot = slotLayout (utf8Bytes key) (utf8Bytes value) :=
      Outcome.ok.inj (encoded.symm.trans (encodeSlot_eq_layout hkey hvalue))
    exact ⟨slot, encoded, whole, decoded, layout, disjoint_of_fits hkey hvalue⟩
  · intro inputs
    have wf := wellFormed_reached inputs
    refine ⟨fun i => (wf.slots i).zeros_or_encoded, fun i => ⟨run_readSlot wf i, ?_, ?_⟩,
      fun input => (wf.perform input).1⟩
    · rw [(wf.slots i).decodeSlot_eq]
      trivial
    · obtain ⟨lines, dump⟩ := slotHexLines_eq_ok (wf.slots i).length_eq
      rw [dump]
      trivial

end Kv

end Rdows
