import Rdows.Server.Bookkeeping

/-!
# Protection domains

CONNECT fixes the protection domain of a session, and every MR_REG names a domain of its own, which
`handle_mr_reg` passes on to the store.  Only `deregister` ever compares domains.

So the domain of a region is that of the MR_REG that registered it, and what is accessed through
R_Keys belongs to the session's domain as long as the peer names no other one in its MR_REGs
(`Handles.inDomain` for one message, `accesses_in_domain` for whole runs).  The server does not see
to that: a region of another domain is written like any other (`other_domain_written`).

## What counts as an access

`Accesses` says which region the next message would reach: a READ_REQ and an ATOMIC_REQ through the
R_Key that they name, and a WRITE_DATA through that of the WRITE it belongs to.  It asks only that
the key leads to a live region with the right that is needed, not that the range is inside, so the
result covers accesses that are then refused for their range.

## The condition

`RegistersOnlyIn` is about the MR_REGs that are dispatched, whether or not they succeed.  It starts
with the CONNECT: before it nothing can be registered (`fresh_of_awaiting`), and the session's own
domain is not known.
-/

namespace Rdows

open Rust

namespace MemoryStore

variable {s t : MemoryStore} {pd : ProtectionDomain}

/-- All live regions are registered under the domain. -/
def InDomain (pd : ProtectionDomain) (s : MemoryStore) : Prop :=
  ∀ l e, s.regions.lookup l = some e → e.pd = pd

/-- Writing keeps the domain of a region. -/
theorem WritesUnder.inDomain {rkey : RKey} {right : AccessFlags}
    (writes : s.WritesUnder rkey right t) (inside : s.InDomain pd) : t.InDomain pd := by
  rcases writes with rfl | ⟨lkeyVal, entry, data, access, -, rfl⟩
  · exact inside
  intro l e found
  rw [lookup_setData] at found
  split_ifs at found
  · cases found
    exact inside lkeyVal entry (entryFor_eq_ok.mp access).2.1
  · exact inside l e found

end MemoryStore

namespace Session

open MemoryStore

/-- The message, if it comes next and is dispatched, reaches the region `e` under the L_Key `l`,
through the R_Key that it names, or the WRITE whose data it carries. -/
inductive Accesses (s : Session) (l : UInt32) (e : MemoryRegionEntry) : RdowsMessage → Prop
  | read (header : RdowsHeader) (payload : ReadReqPayload)
      (reaches : s.memoryStore.entryFor payload.rkey .remoteRead = .ok (l, e)) :
      Accesses s l e (.readReq header payload)
  | write (header : RdowsHeader) (payload : DataPayload) {wrid : UInt64} {rkey : RKey}
      {va len : UInt64} (awaits : s.pendingOp = .awaitingWriteData wrid rkey va len)
      (reaches : s.memoryStore.entryFor rkey .remoteWrite = .ok (l, e)) :
      Accesses s l e (.writeData header payload)
  | atomic (header : RdowsHeader) (payload : AtomicReqPayload)
      (reaches : s.memoryStore.entryFor payload.rkey .remoteAtomic = .ok (l, e)) :
      Accesses s l e (.atomicReq header payload)

/-- What is accessed is a live region. -/
theorem Accesses.live {s : Session} {l : UInt32} {e : MemoryRegionEntry} {msg : RdowsMessage}
    (accesses : s.Accesses l e msg) : s.memoryStore.regions.lookup l = some e := by
  cases accesses with
  | read header payload reaches => exact (entryFor_eq_ok.mp reaches).2.1
  | write header payload awaits reaches => exact (entryFor_eq_ok.mp reaches).2.1
  | atomic header payload reaches => exact (entryFor_eq_ok.mp reaches).2.1

/-- The message registers only under the domain, if it registers at all.  An MR_REG that the store
refuses must name it, too. -/
def RegistersIn (pd : ProtectionDomain) : RdowsMessage → Prop
  | .mrReg _ payload => payload.pd = pd
  | _ => True

instance (pd : ProtectionDomain) : DecidablePred (RegistersIn pd) := fun msg => by
  unfold RegistersIn
  split <;> infer_instance

/-- One message keeps all regions in the domain, if it registers there only: regions do not change
their domain. -/
theorem Handles.inDomain {store t : MemoryStore} {pending : PendingOp} {msg : RdowsMessage}
    {pd : ProtectionDomain} (handles : Handles store pending msg t) (inside : store.InDomain pd)
    (registers : RegistersIn pd msg) : t.InDomain pd := by
  cases handles with
  | stay => exact inside
  | mrReg draws header payload =>
      intro l e found
      rcases lookup_register found with before | ⟨-, -, named⟩
      · exact inside l e before
      · exact named.trans registers
  | mrDereg header payload =>
      intro l e found
      exact inside l e (lookup_deregister found)
  | writeData header payload awaits => exact (writeRegion_writesUnder ..).inDomain inside
  | atomicReq header payload => exact (atomicOp_writesUnder ..).inDomain inside

/-- A session becomes Ready by a CONNECT and takes its domain from it. -/
theorem pd_plan {s : Session} (awaiting : s.state = .awaitingConnect) (now : ℕ)
    (draws : ℕ → UInt32) (msg : RdowsMessage) (n : UInt32) :
    (s.plan now draws msg).Throughout numbering (fun _ t => t.state = .ready →
      ∃ header payload, msg = .connect header payload ∧ t.pd = payload.pd) n := by
  have notReady : s.state ≠ .ready := by
    rw [awaiting]
    decide
  rw [plan_of_awaiting awaiting]
  cases msg with
  | connect header payload =>
      unfold planConnect
      dsimp only
      split
      · exact ⟨fun ready => absurd ready notReady, fun ready => by cases ready⟩
      · exact ⟨fun ready => absurd ready notReady, fun _ => ⟨header, payload, rfl, rfl⟩⟩
  | _ => exact fun ready => absurd ready notReady

end Session

namespace ServerRun

open MemoryStore

/-- The frame that makes a session Ready is a CONNECT, and names the session's domain. -/
theorem connect_of_ready {r : ServerRun} {input : Env × WsMessage}
    (awaiting : r.session.state = .awaitingConnect)
    (ready : (r.step input).2.session.state = .ready) :
    ∃ header payload, input.2.carried = some (.connect header payload) ∧
      (r.step input).2.session.pd = payload.pd := by
  rcases r.step_cases input with ⟨goesOn, -, stays⟩ | ⟨msg, -, carried, handles⟩
  · rw [stays] at ready
    cases awaiting.symm.trans ready
  · rw [handles] at ready ⊢
    have connects := handle_throughout (P := fun _ t => t.state = .ready →
      ∃ header payload, msg = .connect header payload ∧ t.pd = payload.pd)
      (fun _ _ _ h => h) (Session.pd_plan awaiting input.1.now input.1.draws msg r.session.nextSeq)
    obtain ⟨header, payload, rfl, same⟩ := connects ready
    exact ⟨header, payload, carried, same⟩

/-- Nothing is registered in a session that waits for CONNECT, nor by the frame it waits for. -/
theorem fresh_of_awaiting (config : ServerConfig) (now : ℕ) (before : List (Env × WsMessage))
    (awaiting : ((new config now).after before).session.state = .awaitingConnect)
    (connect : Env × WsMessage) :
    ((new config now).after (before ++ [connect])).session.memoryStore
      = .new config.maxRegionsPerSession config.maxTotalBytesPerSession := by
  have kept := bookkept_after config now before
  have noAck : connectAcks (allReplies ((new config now).seen before)) = 0 := by
    by_contra acked
    exact kept.connected acked awaiting
  rw [after_concat, ← (kept.fresh noAck).1]
  rcases step_dispatches ((new config now).after before) connect with
    ⟨-, state, id, pd, size, seq, expected, stays⟩ | ⟨msg, -, -, reaches, -, -⟩
  · rw [stays]
  · cases awaiting.symm.trans reaches.1

/-- Every MR_REG that is dispatched in the run names the domain.  It can be decided from the history
of the run. -/
def RegistersOnlyIn (pd : ProtectionDomain) (seen : Seen) : Prop :=
  ∀ entry ∈ seen, ∀ msg ∈ entry.2.dispatched, Session.RegistersIn pd msg

instance (pd : ProtectionDomain) (seen : Seen) : Decidable (RegistersOnlyIn pd seen) :=
  have (served : Served) : Decidable (∀ msg ∈ served.dispatched, Session.RegistersIn pd msg) :=
    Option.decidableForallMem served.dispatched
  inferInstanceAs (Decidable (∀ entry ∈ seen, ∀ msg ∈ entry.2.dispatched,
    Session.RegistersIn pd msg))

/-- The domain of all regions along a run. -/
theorem inDomain_after {r : ServerRun} {pd : ProtectionDomain}
    (inside : r.session.memoryStore.InDomain pd) (later : List (Env × WsMessage))
    (registers : RegistersOnlyIn pd (r.seen later)) :
    (r.after later).session.memoryStore.InDomain pd := by
  refine Machine.run_induction
    (P := fun seen t => RegistersOnlyIn pd seen → t.session.memoryStore.InDomain pd)
    (fun _ => inside) ?_ later registers
  intro seen t input ih registers
  have before := ih fun entry mem => registers entry (List.mem_cons_of_mem _ mem)
  rcases t.step_handles input with same | ⟨msg, -, dispatched, handles⟩
  · rw [same]
    exact before
  · exact handles.inDomain before (registers _ List.mem_cons_self msg dispatched)

/-- **Regions are accessed in the session's domain, if the peer registers them there.** Let a
session wait for CONNECT and become Ready with the next frame: this is a CONNECT, and the session's
domain is the one it names.  If from then on every MR_REG that is dispatched names the same domain,
every region that is ever read, written or atomically updated was registered under it: whatever
message comes next after any part of the run, the region it reaches is of the domain.

`awaiting` and `established` pick the frame at which the domain is fixed; `registers` is what the
peer must keep to, since the server does not check it. -/
theorem accesses_in_domain (config : ServerConfig) (now : ℕ) (before : List (Env × WsMessage))
    (connect : Env × WsMessage) (later : List (Env × WsMessage))
    (awaiting : ((new config now).after before).session.state = .awaitingConnect)
    (established : ((new config now).after (before ++ [connect])).session.state = .ready)
    (registers : RegistersOnlyIn ((new config now).after (before ++ [connect])).session.pd
      (((new config now).after (before ++ [connect])).seen later)) :
    (∃ header payload, connect.2.carried = some (.connect header payload) ∧
      ((new config now).after (before ++ [connect])).session.pd = payload.pd) ∧
    ∀ msg l e,
      (((new config now).after (before ++ [connect])).after later).session.Accesses l e msg →
      e.pd = ((new config now).after (before ++ [connect])).session.pd := by
  refine ⟨?_, ?_⟩
  · rw [after_concat] at established ⊢
    exact connect_of_ready awaiting established
  · intro msg l e accesses
    refine inDomain_after ?_ later registers l e accesses.live
    intro l e found
    rw [fresh_of_awaiting config now before awaiting connect] at found
    cases found

/-- A CONNECT with the domain 1. -/
def connectFrame : Env × WsMessage :=
  ((delivered (sampleConnect 1024)).1, .binary (sampleConnect 1024).encode)

/-- A registration of eight bytes under a domain, and a WRITE of one byte to them. -/
def registerAndWrite (pd : ProtectionDomain) : List (Env × WsMessage) :=
  binaries
    [delivered (.mrReg (.new .mrReg 7 1 0) ⟨pd, .remoteWrite, 8, none⟩),
      delivered (.write (.new .write 7 2 21) ⟨⟨1⟩, 4, 1, []⟩)]

/-- The region of `registerAndWrite`. -/
def eightBytes (pd : ProtectionDomain) : MemoryRegionEntry :=
  { pd, lkey := ⟨1⟩, rkey := ⟨1⟩, accessFlags := .remoteWrite, data := List.replicate 8 0 }

/-- The message of the frame `sampleWriteData 3`. -/
def oneByteWritten : RdowsMessage :=
  .writeData { RdowsHeader.new .writeData 7 3 21 with payloadLength := 1 } ⟨[9]⟩

/-- All are of the domain 1: the CONNECT and the MR_REG name it, a WRITE to the region is under way,
and the region that the data of the WRITE reaches was registered under it. -/
theorem accesses_in_domain_one :
    (((new {} 0).after [connectFrame]).after (registerAndWrite ⟨1⟩)).session.Accesses 1
      (eightBytes ⟨1⟩) oneByteWritten ∧
    (eightBytes ⟨1⟩).pd = ((new {} 0).after [connectFrame]).session.pd := by
  have awaits : (((new {} 0).after [connectFrame]).after
      (registerAndWrite ⟨1⟩)).session.pendingOp = .awaitingWriteData 21 ⟨1⟩ 4 1 := by
    decide +kernel
  have accesses : (((new {} 0).after [connectFrame]).after
      (registerAndWrite ⟨1⟩)).session.Accesses 1 (eightBytes ⟨1⟩) oneByteWritten :=
    .write _ _ awaits (by decide +kernel)
  have registers : RegistersOnlyIn ((new {} 0).after [connectFrame]).session.pd
      (((new {} 0).after [connectFrame]).seen (registerAndWrite ⟨1⟩)) := by
    decide +kernel
  exact ⟨accesses, (accesses_in_domain {} 0 [] connectFrame (registerAndWrite ⟨1⟩) rfl
    (by decide +kernel) registers).2 oneByteWritten 1 _ accesses⟩

/-- **A region of another domain is written.**  The CONNECT names the domain 1 and the MR_REG
the domain 2; the data of a WRITE to the region is written and completed. -/
theorem other_domain_written :
    ((new {} 0).after [connectFrame]).session.pd = ⟨1⟩ ∧
    (((new {} 0).after [connectFrame]).after (registerAndWrite ⟨2⟩)).session.Accesses 1
      (eightBytes ⟨2⟩) oneByteWritten ∧
    (eightBytes ⟨2⟩).pd ≠ ((new {} 0).after [connectFrame]).session.pd ∧
    ((((new {} 0).after [connectFrame]).after (registerAndWrite ⟨2⟩)).step
      (sampleWriteData 3)).1.replies = [.writeComp (.new .writeComp 7 2 21)] ∧
    ((((new {} 0).after [connectFrame]).after (registerAndWrite ⟨2⟩)).step
      (sampleWriteData 3)).2.session.memoryStore.regions.lookup 1
        = some { eightBytes ⟨2⟩ with data := [0, 0, 0, 0, 9, 0, 0, 0] } := by
  have awaits : (((new {} 0).after [connectFrame]).after
      (registerAndWrite ⟨2⟩)).session.pendingOp = .awaitingWriteData 21 ⟨1⟩ 4 1 := by
    decide +kernel
  exact ⟨by decide +kernel, .write _ _ awaits (by decide +kernel), by decide +kernel,
    by decide +kernel, by decide +kernel⟩

end ServerRun

end Rdows
