import Rdows.Server.AccessRights

/-!
# The declared length of a WRITE

A WRITE declares the length of its data, and the data comes in a frame of its own.  `handle_write`
parks the length in the pending operation as `expected_len`; `handle_write_data` takes the pending
operation out again and drops that field.  What it writes is the data that came, whatever its size.

* `Writable`: the R_Key is live, its region may be written, and the range lies inside the region.
  `writeRegion_cases` says that this is when `write_region` succeeds, and that then the bytes of the
  range are the data and no other byte has changed (`Written`).
* `pendingOp_after`: a WRITE that was accepted waits for its data until the next message that
  belongs to a SEND or a WRITE.
* `DeclaredSize` is what a peer expects of the two frames: WRITE_COMP says that so many bytes were
  written, and data of another size is answered with an ERROR and changes nothing.
  `write_completes` says exactly when it gets that: the data has the declared length, or there is no
  room for it, or it was in its place already and nothing can be sent.
* `short_write_completes`: in any other case the data is written and completed all the same.
-/

namespace Rdows

open Rust

namespace MemoryStore

variable {s t : MemoryStore} {rkey : RKey}

/-- The `len` bytes from `start` on of the region of the R_Key are now the data, and no other byte
of any region has changed. -/
def Written (s t : MemoryStore) (rkey : RKey) (start len : ℕ) (data : Bytes) : Prop :=
  ∃ l e now, s.entryFor rkey .remoteWrite = .ok (l, e) ∧ start + len ≤ e.data.length ∧
    t.regions.lookup l = some { e with data := now } ∧ now.length = e.data.length ∧
    (now.drop start).take len = data ∧
    (∀ i, i < start ∨ start + len ≤ i → now[i]? = e.data[i]?) ∧
    ∀ l' ≠ l, t.regions.lookup l' = s.regions.lookup l'

/-- The R_Key is live, its region may be written, and the range lies inside the region. -/
def Writable (s : MemoryStore) (rkey : RKey) (start len : ℕ) : Prop :=
  ∃ l e, s.rkeyToLkey.lookup rkey.value = some l ∧ s.regions.lookup l = some e ∧
    e.accessFlags.contains .remoteWrite ∧ InRange start len e.data.length

instance (s : MemoryStore) (rkey : RKey) (start len : ℕ) : Decidable (s.Writable rkey start len) :=
  decidable_of_iff
    ((s.rkeyToLkey.lookup rkey.value).any fun l => (s.regions.lookup l).any fun e =>
      e.accessFlags.contains .remoteWrite && decide (InRange start len e.data.length))
    (by simp [Writable, Option.any_eq_true])

/-- The range of the R_Key's region holds the data already. -/
def Holds (s : MemoryStore) (rkey : RKey) (start : ℕ) (data : Bytes) : Prop :=
  ∃ l e, s.rkeyToLkey.lookup rkey.value = some l ∧ s.regions.lookup l = some e ∧
    (e.data.drop start).take data.length = data

/-- The regions of two stores are the same, bytes included. -/
def SameRegions (s t : MemoryStore) : Prop := ∀ l, t.regions.lookup l = s.regions.lookup l

/-- `write_region` writes all of the data or nothing. -/
theorem writeRegion_cases (s : MemoryStore) (rkey : RKey) (va : UInt64) (data : Bytes) :
    (s.Writable rkey va.toNat data.length ∧ ∃ t, (writeRegion rkey va data).run s = (.ok (), t) ∧
      s.Written t rkey va.toNat data.length data) ∨
    (¬ s.Writable rkey va.toNat data.length ∧
      ∃ code, (writeRegion rkey va data).run s = (.err code, s)) := by
  rcases access : s.entryFor rkey .remoteWrite with ⟨l, e⟩ | code | p
  · obtain ⟨live, found, granted⟩ := entryFor_eq_ok.mp access
    rw [writeRegion_run_granted access]
    -- the right is granted; what remains is the range
    split_ifs with range
    · refine .inl ⟨⟨l, e, live, found, granted, range⟩, _, rfl, l, e, splice e.data va.toNat data,
        access, range.2, ?_, length_splice range.2, segment_splice_self range.2, ?_, ?_⟩
      · rw [lookup_setData, if_pos rfl]
      · intro i outside
        rw [getElem?_splice range.2, if_neg (by omega)]
      · intro l' other
        rw [lookup_setData, if_neg other]
    · refine .inr ⟨?_, _, rfl⟩
      rintro ⟨l', e', live', found', -, range'⟩
      cases live.symm.trans live'
      cases found.symm.trans found'
      exact range range'
  · refine .inr ⟨?_, code, writeRegion_run_refused access⟩
    rintro ⟨l, e, live, found, granted, -⟩
    cases access.symm.trans (entryFor_eq_ok.mpr ⟨live, found, granted⟩)
  · exact absurd access (entryFor_ne_panic _ _ _ _)

/-- `write_region` fails exactly if there is no such place to write to. -/
theorem isErr_writeRegion_iff (s : MemoryStore) (rkey : RKey) (va : UInt64) (data : Bytes) :
    ((writeRegion rkey va data).run s).1.IsErr ↔ ¬ s.Writable rkey va.toNat data.length := by
  rcases s.writeRegion_cases rkey va data with ⟨writable, t, run, -⟩ | ⟨refused, code, run⟩ <;>
    rw [run]
  · exact iff_of_false id (not_not.mpr writable)
  · exact iff_of_true trivial refused

/-- Writing what is there already is the only way to write without an effect. -/
theorem Written.sameRegions_iff {start : ℕ} {data : Bytes}
    (written : s.Written t rkey start data.length data) :
    s.SameRegions t ↔ s.Holds rkey start data := by
  obtain ⟨l, e, now, access, inside, stored, size, segment, outside, others⟩ := written
  obtain ⟨live, found, -⟩ := entryFor_eq_ok.mp access
  constructor
  · intro same
    have kept : some { e with data := now } = some e := stored.symm.trans ((same l).trans found)
    have unchanged : now = e.data := congrArg MemoryRegionEntry.data (Option.some.inj kept)
    exact ⟨l, e, live, found, unchanged ▸ segment⟩
  · rintro ⟨l', e', live', found', holds⟩
    cases live.symm.trans live'
    cases found.symm.trans found'
    -- inside the range by what it held, outside since the write left it
    have unchanged : now = e.data := by
      refine List.ext_getElem? fun i => ?_
      by_cases within : start ≤ i ∧ i < start + data.length
      · have both := congrArg (·[i - start]?) (segment.trans holds.symm)
        simp only [List.getElem?_take, List.getElem?_drop] at both
        rwa [if_pos (by omega), if_pos (by omega), show start + (i - start) = i by omega] at both
      · exact outside i (by omega)
    intro l'
    by_cases here : l' = l
    · rw [here, stored, found, unchanged]
    · exact others l' here

end MemoryStore

namespace ServerRun

open Handler

variable {r : ServerRun} {input : Env × WsMessage}

/-- No message of a SEND or a WRITE is dispatched, so that a pending operation keeps waiting. -/
def LeavesSlot (seen : Seen) : Prop :=
  ∀ entry ∈ seen, ∀ msg ∈ entry.2.dispatched, touchesSlot msg = false

instance (seen : Seen) : Decidable (LeavesSlot seen) :=
  have (served : Served) : Decidable (∀ msg ∈ served.dispatched, touchesSlot msg = false) :=
    Option.decidableForallMem served.dispatched
  inferInstanceAs (Decidable (∀ entry ∈ seen, ∀ msg ∈ entry.2.dispatched, touchesSlot msg = false))

/-- A turn that dispatches no such message leaves the pending operation. -/
theorem pendingOp_step (quiet : ∀ msg ∈ (r.step input).1.dispatched, touchesSlot msg = false) :
    (r.step input).2.session.pendingOp = r.session.pendingOp := by
  rcases r.step_leaves input with ⟨-, same⟩ | ⟨msg, -, dispatched, leaves⟩
  · exact congrArg Slot.pendingOp same.slot_eq
  · exact congrArg Slot.pendingOp (leaves.slot_eq (quiet msg dispatched))

/-- A pending operation waits for its data. -/
theorem pendingOp_after (r : ServerRun) {inputs : List (Env × WsMessage)}
    (quiet : LeavesSlot (r.seen inputs)) :
    (r.after inputs).session.pendingOp = r.session.pendingOp := by
  refine Machine.run_induction
    (P := fun seen t => LeavesSlot seen → t.session.pendingOp = r.session.pendingOp)
    (fun _ => rfl) ?_ inputs quiet
  intro seen t input ih quiet
  rw [pendingOp_step (quiet _ List.mem_cons_self)]
  exact ih fun entry mem => quiet entry (List.mem_cons_of_mem _ mem)

/-- A WRITE with a valid key is accepted. -/
theorem pendingOp_of_write {header : RdowsHeader} {payload : WritePayload}
    (dispatched : (r.step input).1.dispatched = some (.write header payload))
    (valid : (r.session.memoryStore.validateRkey payload.rkey .remoteWrite).IsOk) :
    (r.step input).2.session.pendingOp
      = .awaitingWriteData header.wrid payload.rkey payload.remoteVa payload.length := by
  rcases r.step_leaves input with ⟨none, -⟩ | ⟨msg, -, dispatched', leaves⟩
  · cases none.symm.trans dispatched
  cases dispatched'.symm.trans dispatched
  generalize (r.step input).2.session = t at leaves
  cases leaves with
  | declines _ _ invalid =>
      rcases accepted : r.session.memoryStore.validateRkey payload.rkey .remoteWrite
        with e | code | p
      · exact absurd accepted (invalid e)
      all_goals
        rw [accepted] at valid
        exact valid.elim
  | announces => rfl
  | stays _ whole => cases whole

/-- The data of a pending WRITE is written and completed, or refused with an error. -/
theorem step_writeData {header : RdowsHeader} {payload : DataPayload} {wrid : UInt64} {rkey : RKey}
    {va len : UInt64} (dispatched : (r.step input).1.dispatched = some (.writeData header payload))
    (awaits : r.session.pendingOp = .awaitingWriteData wrid rkey va len) :
    (r.session.memoryStore.Writable rkey va.toNat payload.data.length ∧
      r.session.memoryStore.Written (r.step input).2.session.memoryStore rkey va.toNat
        payload.data.length payload.data ∧
      (input.1.transport 0 = none ∧ (∃ h, (r.step input).1.replies = [.writeComp h]) ∨
        input.1.transport 0 ≠ none ∧ (r.step input).1.replies = [])) ∨
    (¬ r.session.memoryStore.Writable rkey va.toNat payload.data.length ∧
      (r.step input).2.session.memoryStore = r.session.memoryStore ∧
      (input.1.transport 0 = none ∧ (∃ h p, (r.step input).1.replies = [.error h p]) ∨
        input.1.transport 0 ≠ none ∧ (r.step input).1.replies = [])) := by
  obtain ⟨reaches, handles⟩ := step_of_dispatched dispatched
  have plan : r.session.plan input.1.now input.1.draws (.writeData header payload)
      = (r.session.accepting (.writeData header payload)).planWriteData payload :=
    Session.plan_of_reaches reaches _ _
  have pending : (r.session.accepting (.writeData header payload)).pendingOp = _ := awaits
  rw [Session.planWriteData, pending] at plan
  rw [handles]
  rcases r.session.memoryStore.writeRegion_cases rkey va payload.data with
    ⟨writable, t, run, written⟩ | ⟨refused, code, run⟩
  · obtain ⟨left, sent⟩ := handle_of_answer (plan.trans (Session.calling_eq (.ok ()) run))
    rw [left]
    exact .inl ⟨writable, written, sent.imp_left fun one => ⟨one.1, _, one.2⟩⟩
  · obtain ⟨left, sent⟩ := handle_of_answer (plan.trans (Session.calling_eq (.error code) run))
    rw [left]
    exact .inr ⟨refused, rfl, sent.imp_left fun one => ⟨one.1, _, _, one.2⟩⟩

/-- **What a WRITE of `len` bytes promises when its data comes.**  WRITE_COMP is sent only if
exactly the declared range now holds the data and no other byte has changed; and data of another
size is answered with an ERROR, as far as anything can be sent, and changes no region. -/
structure DeclaredSize (r : ServerRun) (input : Env × WsMessage) (rkey : RKey) (start len : ℕ)
    (data : Bytes) : Prop where
  completed : (∃ h, .writeComp h ∈ (r.step input).1.replies) →
    r.session.memoryStore.Written (r.step input).2.session.memoryStore rkey start len data
  refused : data.length ≠ len →
    ((∃ h p, (r.step input).1.replies = [.error h p]) ∨ input.1.transport 0 ≠ none) ∧
    r.session.memoryStore.SameRegions (r.step input).2.session.memoryStore

/-- The data has the declared size, or it cannot be written, or writing it changes nothing and the
WRITE_COMP is lost. -/
def MeetsSize (r : ServerRun) (input : Env × WsMessage) (rkey : RKey) (start len : ℕ)
    (data : Bytes) : Prop :=
  data.length = len ∨ ¬ r.session.memoryStore.Writable rkey start data.length ∨
    (input.1.transport 0 ≠ none ∧ r.session.memoryStore.Holds rkey start data)

/-- The data of a pending WRITE keeps the promise exactly if it meets the size. -/
theorem declaredSize_iff {header : RdowsHeader} {payload : DataPayload} {wrid : UInt64}
    {rkey : RKey} {va len : UInt64}
    (dispatched : (r.step input).1.dispatched = some (.writeData header payload))
    (awaits : r.session.pendingOp = .awaitingWriteData wrid rkey va len) :
    r.DeclaredSize input rkey va.toNat len.toNat payload.data ↔
      r.MeetsSize input rkey va.toNat len.toNat payload.data := by
  rcases step_writeData dispatched awaits with ⟨writable, written, replies⟩ |
    ⟨unwritable, same, replies⟩
  · constructor
    · intro keeps
      by_cases size : payload.data.length = len.toNat
      · exact .inl size
      -- Data of another size was written: nothing may show it.
      obtain ⟨answered, unchanged⟩ := keeps.refused size
      refine .inr (.inr ⟨?_, written.sameRegions_iff.mp unchanged⟩)
      rcases replies with ⟨sent, h, completed⟩ | ⟨lost, -⟩
      · rcases answered with ⟨h', p, error⟩ | lost
        · rw [completed] at error
          cases error
        · exact absurd sent lost
      · exact lost
    · rintro (size | refused | ⟨lost, holds⟩)
      · rw [← size]
        exact ⟨fun _ => written, fun differs => absurd rfl differs⟩
      · exact absurd writable refused
      · refine ⟨?_, fun _ => ⟨.inr lost, written.sameRegions_iff.mpr holds⟩⟩
        rintro ⟨h, completed⟩
        rcases replies with ⟨sent, -⟩ | ⟨-, none⟩
        · exact absurd sent lost
        · rw [none] at completed
          cases completed
  · refine iff_of_true ⟨?_, fun _ => ⟨?_, fun l => by rw [same]⟩⟩ (.inr (.inl unwritable))
    · rintro ⟨h, completed⟩
      rcases replies with ⟨-, h', p, one⟩ | ⟨-, none⟩
      · rw [one] at completed
        cases List.mem_singleton.mp completed
      · rw [none] at completed
        cases completed
    · exact replies.imp And.right And.left

/-- **A WRITE completes at its declared size, exactly if its data meets it.**  Let a WRITE with a
valid key be dispatched at any point of any run, then any messages that belong to no SEND or WRITE
(one of those would replace the pending operation, and the data would not be this WRITE's), then its
data.  The promise of the declared size is kept if and only if the data has that size, or its R_Key
is not live any more, or it does not fit in its region; or, at last, if the region already holds it
and the WRITE_COMP cannot be sent, so that the peer sees neither an effect nor an answer. -/
theorem write_completes (config : ServerConfig) (now : ℕ) (earlier between : List (Env × WsMessage))
    (write data : Env × WsMessage) (header dataHeader : RdowsHeader) (payload : WritePayload)
    (written : DataPayload) :
    let sent := ((new config now).after earlier).step write
    let waiting := sent.2.after between
    sent.1.dispatched = some (.write header payload) →
    (((new config now).after earlier).session.memoryStore.validateRkey payload.rkey
      .remoteWrite).IsOk →
    LeavesSlot (sent.2.seen between) →
    (waiting.step data).1.dispatched = some (.writeData dataHeader written) →
    (waiting.DeclaredSize data payload.rkey payload.remoteVa.toNat payload.length.toNat
        written.data ↔
      waiting.MeetsSize data payload.rkey payload.remoteVa.toNat payload.length.toNat
        written.data) := by
  intro sent waiting dispatched accepted undisturbed followed
  have awaits : waiting.session.pendingOp
      = .awaitingWriteData header.wrid payload.rkey payload.remoteVa payload.length :=
    (pendingOp_after _ undisturbed).trans (pendingOp_of_write dispatched accepted)
  exact declaredSize_iff followed awaits

/-- CONNECT and a region of eight bytes that may be written. -/
def eightWritable : List (Env × WsMessage) :=
  binaries [delivered (sampleConnect 1024),
    delivered (.mrReg (.new .mrReg 7 1 0) ⟨⟨1⟩, .remoteWrite, 8, none⟩)]

/-- A WRITE to that region that declares a length; it starts at offset 4. -/
def declaredWrite (length : UInt64) : Env × WsMessage :=
  ((delivered (sampleConnect 0)).1,
    .binary (RdowsMessage.write (.new .write 7 2 21) ⟨⟨1⟩, 4, length, []⟩).encode)

/-- The session that waits for the data of that WRITE. -/
def awaitingData (length : UInt64) : ServerRun :=
  (((new {} 0).after eightWritable).step (declaredWrite length)).2

/-- One byte is declared and comes, with an ACK in between: it is written and completed.  The ACK
belongs to no SEND or WRITE, so the WRITE keeps waiting. -/
theorem write_completes_after_ack :
    let waiting := (awaitingData 1).after (binaries [delivered (.ack (.new .ack 7 3 0))])
    waiting.session.memoryStore.Written
      (waiting.step (sampleWriteData 4)).2.session.memoryStore ⟨1⟩ 4 1 [9] :=
  ((write_completes {} 0 eightWritable (binaries [delivered (.ack (.new .ack 7 3 0))])
    (declaredWrite 1) (sampleWriteData 4)
    { RdowsHeader.new .write 7 2 21 with payloadLength := 24 }
    { RdowsHeader.new .writeData 7 4 21 with payloadLength := 1 } ⟨⟨1⟩, 4, 1, []⟩ ⟨[9]⟩
    (by decide +kernel) (by decide +kernel) (by decide +kernel) (by decide +kernel)).mpr
    (.inl (by decide))).completed ⟨.new .writeComp 7 2 21, by decide +kernel⟩

/-- **A short write is completed.**  The WRITE declares four bytes and its data is one byte.  That
byte is written and WRITE_COMP is sent. -/
theorem short_write_completes :
    (awaitingData 4).session.pendingOp = .awaitingWriteData 21 ⟨1⟩ 4 4 ∧
    ((awaitingData 4).step (sampleWriteData 3)).1.dispatched
      = some (.writeData { RdowsHeader.new .writeData 7 3 21 with payloadLength := 1 } ⟨[9]⟩) ∧
    ((awaitingData 4).step (sampleWriteData 3)).1.replies
      = [.writeComp (.new .writeComp 7 2 21)] ∧
    (((awaitingData 4).step (sampleWriteData 3)).2.session.memoryStore.regions.lookup 1).map
      MemoryRegionEntry.data = some [0, 0, 0, 0, 9, 0, 0, 0] :=
  ⟨by decide +kernel, by decide +kernel, by decide +kernel, by decide +kernel⟩

end ServerRun

end Rdows
