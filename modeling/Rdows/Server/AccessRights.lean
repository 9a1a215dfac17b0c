import Rdows.Server.SessionRuns
import Rdows.Server.StoreInvariant

/-!
# Access rights over whole sessions

A session calls its memory store in four places only: to register, to deregister, for the data of a
pending WRITE, and for an atomic operation.  `Handles` lists them, and `Leaves.handles` is the one
pass over the handlers that shows there are no others, in every outcome.

* `Moves.origin`: L_Keys are not reused, so a region that is live at two points of a run is the same
  region, with the same rights and the same length.
* `Handles.entitled`: bytes change only where the message that is handled is entitled to it
  (`Entitles`).
* `ServerRun.access_rights` puts these together for every run of a session.

## Entitlement

What entitles a message to change a region is stated over the state before it: its R_Key is live and
leads to this region, and the region has the right that the operation needs.  For the data of a
WRITE the R_Key is the one in the session's slot.  The WRITE itself was checked when it came, but
that is not what protects the region: in between it may have been deregistered, and the store checks
the key again with the data.

## Regions that nobody may change

A region without the rights of writing and of atomic operations is zero for as long as it lives
(`Pristine`).  The server has no other way to fill a region: LOCAL_WRITE is a right that nothing on
the server ever exercises.
-/

namespace Rdows

open Rust

/-! ### Regions along the moves of a store -/

namespace MemoryStore

variable {s t : MemoryStore} {l : UInt32}

/-- The same region, with other bytes of the same length: its domain, keys and rights agree. -/
def SameRegion (e e' : MemoryRegionEntry) : Prop :=
  e' = { e with data := e'.data } ∧ e'.data.length = e.data.length

theorem SameRegion.refl (e : MemoryRegionEntry) : SameRegion e e := ⟨rfl, rfl⟩

theorem SameRegion.trans {a b c : MemoryRegionEntry} (ab : SameRegion a b) (bc : SameRegion b c) :
    SameRegion a c := by
  refine ⟨?_, bc.2.trans ab.2⟩
  rw [bc.1, ab.1]

/-- What is stored under an L_Key after one region got other bytes. -/
theorem lookup_setData {lkeyVal : UInt32} {e : MemoryRegionEntry} {data : Bytes} :
    (s.setData lkeyVal e data).regions.lookup l
      = if l = lkeyVal then some { e with data } else s.regions.lookup l :=
  AssocMap.lookup_insert_eq_ite ..

/-- The next L_Key never goes down. -/
theorem Moves.nextLkey_le (move : Moves s t) : s.nextLkey.toNat ≤ t.nextLkey.toNat := by
  have bumped (next : s.nextLkey.toNat + 1 < 2 ^ 32) :
      s.nextLkey.toNat ≤ (s.nextLkey + 1).toNat := by
    rw [toNat_add32 next]
    exact Nat.le_add_right _ _
  cases move with
  | stay => exact Nat.le_refl _
  | spendKeys used next grows => exact bumped next
  | add pd flags len val room fits quota next => exact bumped next
  | remove => exact Nat.le_refl _
  | overwrite h => exact Nat.le_of_eq (congrArg UInt32.toNat h.nextLkey_eq.symm)

/-- **L_Keys are not reused.**  A region under an L_Key that was handed out before the move was
there before it, with the same rights and the same length. -/
theorem Moves.origin (move : Moves s t) (below : l.toNat < s.nextLkey.toNat)
    {e' : MemoryRegionEntry} (found : t.regions.lookup l = some e') :
    ∃ e, s.regions.lookup l = some e ∧ SameRegion e e' := by
  cases move with
  | stay => exact ⟨e', found, .refl e'⟩
  | spendKeys => exact ⟨e', found, .refl e'⟩
  -- the new region has the next L_Key, which was not handed out before
  | add pd flags len val room fits quota next nonzero fresh =>
      have other : l ≠ s.nextLkey := fun same => Nat.lt_irrefl _ (same ▸ below)
      rw [withRegion, AssocMap.lookup_insert_eq_ite, if_neg other] at found
      exact ⟨e', found, .refl e'⟩
  | remove lkey entry present =>
      rw [withoutRegion, AssocMap.lookup_erase_eq_ite] at found
      split_ifs at found
      exact ⟨e', found, .refl e'⟩
  | overwrite h =>
      cases h with
      | stay => exact ⟨e', found, .refl e'⟩
      | data lkeyVal entry data present sameLength =>
          rw [lookup_setData] at found
          split_ifs at found with same
          · cases found
            exact ⟨entry, same ▸ present, rfl, sameLength⟩
          · exact ⟨e', found, .refl e'⟩

/-- What a write under an R_Key changed is the region of that key, which has the right. -/
theorem WritesUnder.changed {rkey : RKey} {right : AccessFlags}
    (writes : s.WritesUnder rkey right t)
    {e e' : MemoryRegionEntry} (before : s.regions.lookup l = some e)
    (now : t.regions.lookup l = some e') (differs : e' ≠ e) :
    s.entryFor rkey right = .ok (l, e) ∧
      ∀ l' ≠ l, t.regions.lookup l' = s.regions.lookup l' := by
  have unchanged (same : s.regions.lookup l = some e') : False := by
    rw [before] at same
    exact differs (Option.some.inj same).symm
  rcases writes with rfl | ⟨lkeyVal, entry, data, access, -, rfl⟩
  · exact (unchanged now).elim
  rw [lookup_setData] at now
  split_ifs at now with same
  · subst same
    rw [(entryFor_eq_ok.mp access).2.1] at before
    cases before
    exact ⟨access, fun l' other => by rw [lookup_setData, if_neg other]⟩
  · exact (unchanged now).elim

/-- What is registered under an L_Key after a registration was there before, or it is the new
region, all zero and in the domain that was named. -/
theorem lookup_register {draws : ℕ → UInt32} {pd : ProtectionDomain} {flags : AccessFlags}
    {len : UInt64} {e : MemoryRegionEntry}
    (found : ((register draws pd flags len).run s).2.regions.lookup l = some e) :
    s.regions.lookup l = some e ∨
      l = s.nextLkey ∧ e.data = List.replicate len.toNat 0 ∧ e.pd = pd := by
  have ends := register_spec draws pd flags len s
  generalize (register draws pd flags len).run s = out at ends found
  cases ends with
  | registered val =>
      rw [withRegion, AssocMap.lookup_insert_eq_ite] at found
      split_ifs at found with same
      · cases found
        exact .inr ⟨same, rfl, rfl⟩
      · exact .inl found
  | _ => exact .inl found

/-- A deregistration adds no region and changes none that stays. -/
theorem lookup_deregister {pd : ProtectionDomain} {lkey : LKey} {e : MemoryRegionEntry}
    (found : ((deregister pd lkey).run s).2.regions.lookup l = some e) :
    s.regions.lookup l = some e := by
  have ends := deregister_spec pd lkey s
  generalize (deregister pd lkey).run s = out at ends found
  have erased {k : UInt32} (found : (s.regions.erase k).lookup l = some e) :
      s.regions.lookup l = some e := by
    rw [AssocMap.lookup_erase_eq_ite] at found
    split_ifs at found
    exact found
  cases ends with
  | unknown => exact found
  | wrongDomain => exact found
  | underflow => exact erased found
  | removed => exact erased found

/-- Regions that nobody may change remotely are as they were registered: all zero. -/
def Pristine (s : MemoryStore) : Prop :=
  ∀ l e, s.regions.lookup l = some e → e.accessFlags.contains .remoteWrite = false →
    e.accessFlags.contains .remoteAtomic = false → ∀ b ∈ e.data, b = 0

/-- A write under a right of the region leaves the pristine regions alone. -/
theorem WritesUnder.pristine {rkey : RKey} {right : AccessFlags}
    (writes : s.WritesUnder rkey right t) (pristine : Pristine s)
    (among : right = .remoteWrite ∨ right = .remoteAtomic) : Pristine t := by
  rcases writes with rfl | ⟨lkeyVal, entry, data, access, -, rfl⟩
  · exact pristine
  intro l e found noWrite noAtomic
  rw [lookup_setData] at found
  split_ifs at found
  · cases found
    have has := (entryFor_eq_ok.mp access).2.2
    rcases among with rfl | rfl
    · rw [noWrite] at has
      cases has
    · rw [noAtomic] at has
      cases has
  · exact pristine l e found noWrite noAtomic

end MemoryStore

/-! ### What a message can do to the store -/

/-- What handling a message can do to the memory store of a session: nothing, or the one call that
the handler of the message makes. -/
inductive Session.Handles (store : MemoryStore) (pending : PendingOp) :
    RdowsMessage → MemoryStore → Prop
  | stay (msg : RdowsMessage) : Handles store pending msg store
  | mrReg (draws : ℕ → UInt32) (header : RdowsHeader) (payload : MrRegPayload) :
      Handles store pending (.mrReg header payload)
        ((MemoryStore.register draws payload.pd payload.accessFlags payload.regionLen).run store).2
  | mrDereg (header : RdowsHeader) (payload : MrDeregPayload) :
      Handles store pending (.mrDereg header payload)
        ((MemoryStore.deregister payload.pd payload.lkey).run store).2
  | writeData (header : RdowsHeader) (payload : DataPayload) {wrid : UInt64} {rkey : RKey}
      {va len : UInt64} (awaits : pending = .awaitingWriteData wrid rkey va len) :
      Handles store pending (.writeData header payload)
        ((MemoryStore.writeRegion rkey va payload.data).run store).2
  | atomicReq (header : RdowsHeader) (payload : AtomicReqPayload) :
      Handles store pending (.atomicReq header payload)
        ((MemoryStore.atomicOp payload.rkey payload.remoteVa payload.atomicType payload.operand1
          payload.operand2).run store).2

/-- The message may change the region `e` under the L_Key `l`: it carries the data of a pending
WRITE to the region's R_Key and the region may be written, or it is an atomic operation on the
region's R_Key and the region allows those.  The R_Key is live and leads to `l`. -/
inductive Session.Entitles (store : MemoryStore) (pending : PendingOp) (l : UInt32)
    (e : MemoryRegionEntry) : RdowsMessage → Prop
  | write (header : RdowsHeader) (payload : DataPayload) {wrid : UInt64} {va len : UInt64}
      (awaits : pending = .awaitingWriteData wrid e.rkey va len)
      (live : store.rkeyToLkey.lookup e.rkey.value = some l)
      (right : e.accessFlags.contains .remoteWrite = true) :
      Entitles store pending l e (.writeData header payload)
  | atomic (header : RdowsHeader) (payload : AtomicReqPayload) (names : payload.rkey = e.rkey)
      (live : store.rkeyToLkey.lookup e.rkey.value = some l)
      (right : e.accessFlags.contains .remoteAtomic = true) :
      Entitles store pending l e (.atomicReq header payload)

namespace Session

section Handles

open MemoryStore

variable {store t : MemoryStore} {pending : PendingOp} {msg : RdowsMessage}

/-- Every such call is one of the moves of the store. -/
theorem Handles.moves (inv : StoreInv store) (handles : Handles store pending msg t) :
    Moves store t := by
  cases handles with
  | stay => exact .stay
  | mrReg draws header payload => exact register_moves ..
  | mrDereg header payload => exact deregister_moves inv ..
  | writeData header payload awaits => exact .overwrite (writeRegion_writesUnder ..).overwrites
  | atomicReq header payload => exact .overwrite (atomicOp_writesUnder ..).overwrites

/-- Every such call keeps the regions pristine that nobody may change. -/
theorem Handles.pristine (handles : Handles store pending msg t) (pristine : Pristine store) :
    Pristine t := by
  cases handles with
  | stay => exact pristine
  | mrReg draws header payload =>
      intro l e found noWrite noAtomic b hb
      rcases lookup_register found with before | ⟨-, zero, -⟩
      · exact pristine l e before noWrite noAtomic b hb
      · rw [zero] at hb
        exact List.eq_of_mem_replicate hb
  | mrDereg header payload =>
      intro l e found
      exact pristine l e (lookup_deregister found)
  | writeData header payload awaits =>
      exact (writeRegion_writesUnder ..).pristine pristine (.inl rfl)
  | atomicReq header payload => exact (atomicOp_writesUnder ..).pristine pristine (.inr rfl)

/-- The region that an access found is the one with the R_Key. -/
theorem entitled_of_entryFor (inv : StoreInv store) {rkey : RKey} {right : AccessFlags} {l : UInt32}
    {e : MemoryRegionEntry} (access : store.entryFor rkey right = .ok (l, e)) :
    rkey = e.rkey ∧ store.rkeyToLkey.lookup e.rkey.value = some l ∧
      e.accessFlags.contains right = true := by
  obtain ⟨live, found, has⟩ := entryFor_eq_ok.mp access
  obtain ⟨e', found', same⟩ := (inv.inverse _ _).mp live
  rw [found] at found'
  cases found'
  exact ⟨congrArg RKey.mk same.symm, by rw [same]; exact live, has⟩

/-- **Bytes change only under a right**, and in one region only: the message that was handled is
entitled to change it, and all other regions are as they were. -/
theorem Handles.entitled (inv : StoreInv store) (handles : Handles store pending msg t) {l : UInt32}
    {e e' : MemoryRegionEntry} (before : store.regions.lookup l = some e)
    (now : t.regions.lookup l = some e') (differs : e' ≠ e) :
    Entitles store pending l e msg ∧
      ∀ l' ≠ l, t.regions.lookup l' = store.regions.lookup l' := by
  have unchanged (same : store.regions.lookup l = some e') : False := by
    rw [before] at same
    exact differs (Option.some.inj same).symm
  cases handles with
  | stay => exact (unchanged now).elim
  | mrReg draws header payload =>
      rcases lookup_register now with same | ⟨rfl, -⟩
      · exact (unchanged same).elim
      · rw [inv.nextLkey_free] at before
        cases before
  | mrDereg header payload => exact (unchanged (lookup_deregister now)).elim
  | writeData header payload awaits =>
      obtain ⟨access, others⟩ := (writeRegion_writesUnder ..).changed before now differs
      obtain ⟨rfl, live, has⟩ := entitled_of_entryFor inv access
      exact ⟨.write header payload awaits live has, others⟩
  | atomicReq header payload =>
      obtain ⟨access, others⟩ := (atomicOp_writesUnder ..).changed before now differs
      obtain ⟨names, live, has⟩ := entitled_of_entryFor inv access
      exact ⟨.atomic header payload names live has, others⟩

end Handles

/-- **A dispatched message and the store.**  Wherever handling it ends, it has made at most the one
call of its handler. -/
theorem Leaves.handles {s t : Session} {now : ℕ} {draws : ℕ → UInt32} {msg : RdowsMessage}
    (leaves : s.Leaves now draws msg t) :
    Handles s.memoryStore s.pendingOp msg t.memoryStore := by
  cases leaves with
  | refuses header payload full =>
      show Handles _ _ _ (s.refreshed now).memoryStore
      rw [memoryStore_refreshed]
      exact .stay _
  | registers header payload room => exact .mrReg draws header payload
  | deregisters header payload => exact .mrDereg header payload
  | writes header payload awaits => exact .writeData header payload awaits
  | updates header payload => exact .atomicReq header payload
  | _ => exact .stay _

end Session

/-! ### Whole runs -/

namespace ServerRun

open MemoryStore

/-- A turn of the loop leaves the store alone or makes the one call of the handler of the message
that it dispatches. -/
theorem step_handles (r : ServerRun) (input : Env × WsMessage) :
    (r.step input).2.session.memoryStore = r.session.memoryStore ∨
    ∃ msg, input.2.carried = some msg ∧ (r.step input).1.dispatched = some msg ∧
      Session.Handles r.session.memoryStore r.session.pendingOp msg
        (r.step input).2.session.memoryStore := by
  rcases r.step_leaves input with
    ⟨-, state, id, pd, size, seq, expected, stays⟩ | ⟨msg, carried, dispatched, leaves⟩
  · rw [stays]
    exact .inl rfl
  · exact .inr ⟨msg, carried, dispatched, leaves.handles⟩

/-- What a turn of the loop does to the store is one of the moves of the store. -/
theorem step_moves {r : ServerRun} (inv : StoreInv r.session.memoryStore)
    (input : Env × WsMessage) :
    Moves r.session.memoryStore (r.step input).2.session.memoryStore := by
  rcases r.step_handles input with same | ⟨msg, -, -, handles⟩
  · rw [same]
    exact .stay
  · exact handles.moves inv

/-- The store of a session satisfies its invariant after every run. -/
theorem storeInv_after (config : ServerConfig) (now : ℕ) (inputs : List (Env × WsMessage)) :
    StoreInv ((new config now).after inputs).session.memoryStore :=
  Machine.exec_induction (P := fun r : ServerRun => StoreInv r.session.memoryStore)
    (storeInv_new _ _) (fun _ input inv => inv.moves (step_moves inv input)) inputs

/-- The regions that nobody may change are pristine after every run. -/
theorem pristine_after (config : ServerConfig) (now : ℕ) (inputs : List (Env × WsMessage)) :
    Pristine ((new config now).after inputs).session.memoryStore := by
  refine Machine.exec_induction (P := fun r : ServerRun => Pristine r.session.memoryStore) ?_ ?_
    inputs
  · intro l e found
    cases found
  · intro r input pristine
    rcases r.step_handles input with same | ⟨msg, -, -, handles⟩
    · rw [same]
      exact pristine
    · exact handles.pristine pristine

/-- A region that is live at two points of a run is the same region: its L_Key was given out before
the first of them and was not given out again. -/
theorem sameRegion_after {r : ServerRun} (inv : StoreInv r.session.memoryStore)
    (later : List (Env × WsMessage)) {l : UInt32}
    (below : l.toNat < r.session.memoryStore.nextLkey.toNat) {e' : MemoryRegionEntry}
    (found : (r.after later).session.memoryStore.regions.lookup l = some e') :
    ∃ e, r.session.memoryStore.regions.lookup l = some e ∧ SameRegion e e' := by
  induction later generalizing r with
  | nil => exact ⟨e', found, .refl e'⟩
  | cons input rest ih =>
      have move := step_moves inv input
      obtain ⟨e, present, same⟩ :=
        ih (inv.moves move) (Nat.lt_of_lt_of_le below move.nextLkey_le) found
      obtain ⟨e₀, present₀, same₀⟩ := move.origin below present
      exact ⟨e₀, present₀, same₀.trans same⟩

/-- **Access rights over whole sessions.**  At every point of every run, whatever frames came in
whatever order: the regions keep their rights and their length for as long as they are live; a
region that may be neither written nor updated atomically is all zero; and if one more frame
changes the bytes of a region, it is entitled to change that one, and leaves all others alone. -/
theorem access_rights (config : ServerConfig) (now : ℕ) (inputs : List (Env × WsMessage)) :
    (∀ later l e e',
      ((new config now).after inputs).session.memoryStore.regions.lookup l = some e →
      (((new config now).after inputs).after later).session.memoryStore.regions.lookup l
        = some e' →
      e'.accessFlags = e.accessFlags ∧ e'.data.length = e.data.length) ∧
    (∀ l e, ((new config now).after inputs).session.memoryStore.regions.lookup l = some e →
      e.accessFlags.contains .remoteWrite = false →
      e.accessFlags.contains .remoteAtomic = false → ∀ b ∈ e.data, b = 0) ∧
    (∀ input l e e',
      ((new config now).after inputs).session.memoryStore.regions.lookup l = some e →
      (((new config now).after inputs).step input).2.session.memoryStore.regions.lookup l
        = some e' → e'.data ≠ e.data →
      (∃ msg, input.2.carried = some msg ∧
        Session.Entitles ((new config now).after inputs).session.memoryStore
          ((new config now).after inputs).session.pendingOp l e msg) ∧
      ∀ l' ≠ l,
        (((new config now).after inputs).step input).2.session.memoryStore.regions.lookup l'
          = ((new config now).after inputs).session.memoryStore.regions.lookup l') := by
  have inv := storeInv_after config now inputs
  refine ⟨?_, pristine_after config now inputs, ?_⟩
  · intro later l e e' before found
    obtain ⟨e₀, present, same⟩ := sameRegion_after inv later (inv.belowNext l e before) found
    rw [before] at present
    cases present
    exact ⟨by rw [same.1], same.2⟩
  · intro input l e e' before found differs
    rcases step_handles _ input with same | ⟨msg, carried, -, handles⟩
    · rw [same, before] at found
      cases found
      exact absurd rfl differs
    · obtain ⟨entitled, others⟩ := handles.entitled inv before found
        fun same => differs (congrArg MemoryRegionEntry.data same)
      exact ⟨⟨msg, carried, entitled⟩, others⟩

end ServerRun

end Rdows
