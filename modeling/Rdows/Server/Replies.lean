import Rdows.Core.RoundTrip
import Rdows.Server.Bookkeeping

/-!
# What the replies to a message tell

A message is answered at most once, with the opcode that belongs to it or with an ERROR; only a
SEND_DATA can also bring a CREDIT_UPDATE, behind its RECV_COMP (`Replies`).  And the answer tells
what became of the regions: they change by an MR_REG or an MR_DEREG that is acknowledged with status
0, and by nothing else (`RdowsMessage.settle`).

`Session.answers_plan` reads both off the plans in one pass, and `ServerRun.answers_step` is the
same for one turn of the loop.

## What a client can know

A client sees replies, not the store.  `Handles` is the part of the store that replies tell about:
which L_Keys are live, with which R_Key and what length.  Contents and rights are not in it; no
reply speaks about them.  `settle` takes a message and its reply and says what a client may
conclude, and `Answers` says that the conclusion is right.  `Network.Regions` uses this to show that
the regions a client believes in are those of the server.

The store's invariant is assumed where a deregistration is concerned: only then is the region that
is taken out the one that was found under the L_Key.  It holds in every run of a session.
-/

namespace Rdows

open Rust

/-- The opcodes that answer a message.  The list of every opcode contains ERROR, since every message
can be refused. -/
def Opcode.answers : Opcode → List Opcode
  | .connect => [.connectAck, .error]
  | .mrReg => [.mrRegAck, .error]
  | .mrDereg => [.mrDeregAck, .error]
  | .sendData => [.recvComp, .error]
  | .writeData => [.writeComp, .error]
  | .readReq => [.readResp, .error]
  | .atomicReq => [.atomicResp, .error]
  | _ => [.error]

/-- Every message can be answered with an ERROR. -/
theorem Opcode.error_mem_answers (opcode : Opcode) : Opcode.error ∈ opcode.answers := by
  cases opcode <;> decide

/-- What a message with this opcode can be replied with: nothing, one answer, or the two replies to
a SEND_DATA that brings credits. -/
inductive Replies (opcode : Opcode) : List RdowsMessage → Prop
  | silent : Replies opcode []
  | answer (m : RdowsMessage) (kind : m.variantOpcode ∈ opcode.answers) : Replies opcode [m]
  | returned (header header' : RdowsHeader) (payload : CreditUpdatePayload)
      (data : opcode = .sendData) :
      Replies opcode [.recvComp header, .creditUpdate header' payload]

/-! ### The regions by their keys -/

/-- The L_Key, the R_Key and the length of each region, by the value of its L_Key. -/
abbrev Handles := UInt32 → Option (LKey × RKey × ℕ)

namespace Handles

/-- The regions once an MR_REG is acknowledged: one more if the status is 0, and as they were if
not. -/
def acknowledge (regions : Handles) (len : UInt64) (ack : MrRegAckPayload) : Handles :=
  if ack.status = 0 then
    Function.update regions ack.lkey.value (some (ack.lkey, ack.rkey, len.toNat))
  else regions

/-- The regions once an MR_DEREG is acknowledged: one less if the status is 0, and as they were if
not. -/
def release (regions : Handles) (lkey : LKey) (ack : MrDeregAckPayload) : Handles :=
  if ack.status = 0 then Function.update regions lkey.value none else regions

end Handles

/-- What a reply to the message tells about the regions.  Only the two acknowledgements tell
anything. -/
def RdowsMessage.settle : RdowsMessage → RdowsMessage → Handles → Handles
  | .mrReg _ payload, .mrRegAck _ reply, regions => regions.acknowledge payload.regionLen reply
  | .mrDereg _ payload, .mrDeregAck _ reply, regions => regions.release payload.lkey reply
  | _, _, regions => regions

namespace MemoryStore

variable {s t : MemoryStore}

/-- The regions of the store by their keys, without their contents and rights. -/
def handles (s : MemoryStore) : Handles := fun lkey =>
  (s.regions.lookup lkey).map fun entry => (entry.lkey, entry.rkey, entry.data.length)

/-- A registration adds the handle of the new region. -/
theorem handles_withRegion (pd : ProtectionDomain) (flags : AccessFlags) (len : UInt64)
    (val : UInt32) :
    (s.withRegion pd flags len val).handles
      = Function.update s.handles s.nextLkey (some (⟨s.nextLkey⟩, ⟨val⟩, len.toNat)) := by
  funext lkey
  rw [handles, withRegion, AssocMap.lookup_insert_eq_ite, Function.update_apply]
  split
  · simp
  · rfl

/-- A deregistration removes the handle of the L_Key. -/
theorem handles_withoutRegion (lkey : LKey) (entry : MemoryRegionEntry) :
    (s.withoutRegion lkey entry).handles = Function.update s.handles lkey.value none := by
  funext other
  rw [handles, withoutRegion, AssocMap.lookup_erase_eq_ite, Function.update_apply]
  split
  · rfl
  · rfl

/-- Writing into a region changes neither its keys nor its length. -/
theorem Overwrites.handles_eq (h : Overwrites s t) : t.handles = s.handles := by
  cases h with
  | stay => rfl
  | data lkeyVal entry data found sameLength =>
      funext lkey
      rw [handles, setData, AssocMap.lookup_insert_eq_ite, handles]
      split
      · rename_i same
        rw [same, found, Option.map_some, Option.map_some, sameLength]
      · rfl

/-- A registration that does not return leaves the regions as they are, and one that returns adds
the region it reports. -/
theorem handles_register (draws : ℕ → UInt32) (pd : ProtectionDomain) (flags : AccessFlags)
    (len : UInt64) (s : MemoryStore) :
    let out := (register draws pd flags len).run s
    (∀ p, out.1 = .panic p → out.2.handles = s.handles) ∧
    (∀ code, out.1 = .err code → code.toU16 ≠ 0 ∧ out.2.handles = s.handles) ∧
    ∀ lkey rkey, out.1 = .ok (lkey, rkey) →
      out.2.handles = Function.update s.handles lkey.value (some (lkey, rkey, len.toNat)) := by
  have ends := register_spec draws pd flags len s
  intro out
  change Registers s pd flags len out at ends
  clear_value out
  -- only a registration that returns keys has added a region
  cases ends with
  | registered val room fits quota next nonzero fresh =>
      refine ⟨by simp, by simp, ?_⟩
      intro lkey rkey returned
      obtain ⟨rfl, rfl⟩ := Prod.mk.inj (Outcome.ok.inj returned)
      exact handles_withRegion pd flags len val
  | regionLimit full =>
      refine ⟨by simp, ?_, by simp⟩
      rintro code ⟨⟩
      exact ⟨by decide, rfl⟩
  | overQuota beyond =>
      refine ⟨by simp, ?_, by simp⟩
      rintro code ⟨⟩
      exact ⟨by decide, rfl⟩
  | noFreshKey next =>
      refine ⟨by simp, ?_, by simp⟩
      rintro code ⟨⟩
      exact ⟨by decide, rfl⟩
  | totalOverflow beyond => exact ⟨fun p _ => rfl, by simp, by simp⟩
  | lkeyOverflow beyond => exact ⟨fun p _ => rfl, by simp, by simp⟩
  | allocation val next fresh tooLarge => exact ⟨fun p _ => rfl, by simp, by simp⟩

/-- A deregistration that returns takes the region out. -/
theorem handles_deregister (inv : s.StoreInv) (pd : ProtectionDomain) (lkey : LKey) :
    let out := (deregister pd lkey).run s
    (∀ p, out.1 ≠ .panic p) ∧
    (∀ code, out.1 = .err code → code.toU16 ≠ 0 ∧ out.2.handles = s.handles) ∧
    (out.1 = .ok () → out.2.handles = Function.update s.handles lkey.value none) := by
  have ends := deregister_spec pd lkey s
  intro out
  change Deregisters s pd lkey out at ends
  clear_value out
  cases ends with
  | unknown absent =>
      refine ⟨by simp, ?_, by simp⟩
      rintro code ⟨⟩
      exact ⟨by decide, rfl⟩
  | wrongDomain entry found other =>
      refine ⟨by simp, ?_, by simp⟩
      rintro code ⟨⟩
      exact ⟨by decide, rfl⟩
  | underflow entry found same under => exact absurd (inv.covered found) (Nat.not_le.mpr under)
  | removed entry found same covered =>
      exact ⟨by simp, by simp, fun _ => handles_withoutRegion lkey entry⟩

end MemoryStore

/-! ### One message -/

/-- The replies `sent` to a message belong to it, and they tell what became of the regions. -/
structure Answers (msg : RdowsMessage) (before : Handles) (sent : List RdowsMessage)
    (after : Handles) : Prop where
  replies : Replies msg.variantOpcode sent
  regions : after = sent.foldl (fun regions m => msg.settle m regions) before

namespace Answers

variable {msg : RdowsMessage} {before after : Handles}

/-- No reply, and the regions are untouched. -/
theorem silent (same : after = before) : Answers msg before [] after := ⟨.silent, same⟩

/-- A reply that tells nothing about the regions, which are untouched. -/
theorem still {m : RdowsMessage} (kind : m.variantOpcode ∈ msg.variantOpcode.answers)
    (tells : msg.settle m before = before) (same : after = before) :
    Answers msg before [m] after :=
  ⟨.answer m kind, same.trans tells.symm⟩

end Answers

namespace Session

open MemoryStore

variable {s : Session} {now : ℕ} {draws : ℕ → UInt32} {msg : RdowsMessage} {n : UInt32}

/-- Where the handler of a message ends, its replies belong to the message and tell what became of
the regions, however it ends. -/
abbrev Answered (s : Session) (msg : RdowsMessage) (_ : Outcome RdowsError Unit)
    (sent : List RdowsMessage) (t : Session) : Prop :=
  Answers msg s.memoryStore.handles sent t.memoryStore.handles

/-- An ERROR belongs to every message, and says that the regions are untouched. -/
theorem upholds_complain {t : Session} {code : ErrorCode} {failingSeq : UInt32}
    {description : String} (same : t.memoryStore.handles = s.memoryStore.handles) :
    (t.complain code failingSeq description).Upholds numbering (fun _ _ => True) (s.Answered msg)
      n := by
  refine ⟨trivial, .still (Opcode.error_mem_answers _) ?_ same⟩
  cases msg <;> rfl

theorem answers_planMrReg (header : RdowsHeader) (payload : MrRegPayload) :
    (s.planMrReg now draws header.wrid payload).Upholds numbering (fun _ _ => True)
      (s.Answered (.mrReg header payload)) n := by
  obtain ⟨count, start, refreshed, -⟩ := s.refreshed_eq now
  have kind : Opcode.mrRegAck ∈ Opcode.mrReg.answers := by decide
  -- an acknowledgement with another status tells that nothing has changed
  have refused {code : ErrorCode} (failed : code.toU16 ≠ 0) (h : RdowsHeader) :
      (RdowsMessage.mrReg header payload).settle
        (.mrRegAck h (regAck payload.pd (.error code))) s.memoryStore.handles
      = s.memoryStore.handles := if_neg failed
  unfold planMrReg
  rw [refreshed]
  dsimp only
  split
  · exact ⟨trivial, .still kind (refused (by decide) _) rfl⟩
  · obtain ⟨panics, fails, returns⟩ :=
      handles_register draws payload.pd payload.accessFlags payload.regionLen s.memoryStore
    refine upholds_calling ?_ ?_
    · intro p panicked
      exact .silent (panics p panicked)
    · intro result returned
      refine ⟨trivial, ?_⟩
      rcases result with code | ⟨lkey, rkey⟩
      · obtain ⟨failed, same⟩ := fails code returned
        exact .still kind (refused failed _) same
      · exact ⟨.answer _ kind, returns lkey rkey returned⟩

theorem answers_planMrDereg (inv : s.memoryStore.StoreInv) (header : RdowsHeader)
    (payload : MrDeregPayload) :
    (s.planMrDereg header.wrid payload).Upholds numbering (fun _ _ => True)
      (s.Answered (.mrDereg header payload)) n := by
  obtain ⟨safe, fails, returns⟩ := handles_deregister inv payload.pd payload.lkey
  have kind : Opcode.mrDeregAck ∈ Opcode.mrDereg.answers := by decide
  refine upholds_calling ?_ ?_
  · intro p panicked
    exact absurd panicked (safe p)
  · intro result returned
    refine ⟨trivial, ?_⟩
    rcases result with code | _
    · obtain ⟨failed, same⟩ := fails code returned
      exact .still kind (if_neg failed) same
    · exact ⟨.answer _ kind, returns returned⟩

theorem answers_planSendData (header : RdowsHeader) (payload : DataPayload) :
    s.planSendData.Upholds numbering (fun _ _ => True)
      (s.Answered (.sendData header payload)) n := by
  have kind : Opcode.recvComp ∈ Opcode.sendData.answers := by decide
  unfold planSendData
  dsimp only
  split
  · refine ⟨trivial, ?_⟩
    unfold planCredits
    split
    · exact .still kind rfl rfl
    · split
      · exact ⟨trivial, .returned _ _ _ rfl, rfl⟩
      · exact .still kind rfl rfl
  · exact .silent rfl
  · exact upholds_complain rfl
  · exact upholds_complain rfl

theorem answers_planWriteData (header : RdowsHeader) (payload : DataPayload) :
    (s.planWriteData payload).Upholds numbering (fun _ _ => True)
      (s.Answered (.writeData header payload)) n := by
  unfold planWriteData
  dsimp only
  split
  · rename_i wrid rkey remoteVa _ _
    have same := (writeRegion_writesUnder s.memoryStore rkey remoteVa
      payload.data).overwrites.handles_eq
    refine upholds_calling ?_ ?_
    · intro p panicked
      exact .silent same
    · intro result returned
      rcases result with code | _
      · exact upholds_complain same
      · have kind : Opcode.writeComp ∈ Opcode.writeData.answers := by decide
        exact ⟨trivial, .still kind rfl same⟩
  · exact upholds_complain rfl
  · exact upholds_complain rfl
  · exact upholds_complain rfl

theorem answers_planAtomicReq (header : RdowsHeader) (payload : AtomicReqPayload) :
    (s.planAtomicReq header payload).Upholds numbering (fun _ _ => True)
      (s.Answered (.atomicReq header payload)) n := by
  unfold planAtomicReq
  split
  · exact upholds_complain rfl
  · have same := (atomicOp_writesUnder s.memoryStore payload.rkey payload.remoteVa
      payload.atomicType payload.operand1 payload.operand2).overwrites.handles_eq
    refine upholds_calling ?_ ?_
    · intro p panicked
      exact .silent same
    · intro result returned
      rcases result with code | original
      · exact upholds_complain same
      · have kind : Opcode.atomicResp ∈ Opcode.atomicReq.answers := by decide
        exact ⟨trivial, .still kind rfl same⟩

theorem answers_planDispatch (inv : s.memoryStore.StoreInv) :
    (s.planDispatch now draws msg).Upholds numbering (fun _ _ => True) (s.Answered msg) n := by
  -- the messages that call the store have lemmas of their own; the others do not touch it
  cases msg with
  | mrReg header payload => exact answers_planMrReg header payload
  | mrDereg header payload => exact answers_planMrDereg inv header payload
  | send header payload =>
      show (s.planSend header).Upholds numbering _ _ n
      unfold planSend
      split
      · exact ⟨trivial, .still (Opcode.error_mem_answers _) rfl rfl⟩
      · exact .silent rfl
  | sendData header payload => exact answers_planSendData header payload
  | write header payload =>
      show (s.planWrite header payload).Upholds numbering _ _ n
      unfold planWrite
      split
      · exact upholds_complain rfl
      · exact .silent rfl
      · exact .silent rfl
  | writeData header payload => exact answers_planWriteData header payload
  | readReq header payload =>
      show (s.planReadReq header payload).Upholds numbering _ _ n
      unfold planReadReq
      split
      · exact upholds_complain rfl
      · split
        · exact upholds_complain rfl
        · exact .silent rfl
        · have kind : Opcode.readResp ∈ Opcode.readReq.answers := by decide
          exact ⟨trivial, .still kind rfl rfl⟩
  | atomicReq header payload => exact answers_planAtomicReq header payload
  | ack header => exact .silent rfl
  | _ => exact upholds_complain rfl

/-- A message that is not dispatched never changes the regions. -/
theorem Undispatched.answers {plan : Plan} (h : s.Undispatched msg plan) :
    plan.Upholds numbering (fun _ _ => True) (s.Answered msg) n := by
  cases h with
  | connects _ awaiting =>
      cases msg with
      | connect header payload =>
          unfold planConnect
          dsimp only
          split
          · exact ⟨trivial, .still (Opcode.error_mem_answers _) rfl rfl⟩
          · have kind : Opcode.connectAck ∈ Opcode.connect.answers := by decide
            exact ⟨trivial, .still kind rfl rfl⟩
      | _ => exact .silent rfl
  | closed => exact .silent rfl
  | oversize => exact upholds_complain rfl
  | gap _ expected => exact upholds_complain rfl
  | disconnect header => exact .silent rfl
  | creditUpdate header payload => exact .silent rfl

/-- **The replies to a message** belong to it and tell what became of the regions, over every
transport. -/
theorem answers_plan (inv : s.memoryStore.StoreInv) :
    (s.plan now draws msg).Upholds numbering (fun _ _ => True) (s.Answered msg) n := by
  by_cases reaches : s.ReachesDispatch msg
  · rw [plan_of_reaches reaches]
    exact answers_planDispatch (s := s.accepting msg) inv
  · exact (undispatched_plan reaches now draws).answers

end Session

/-! ### One turn of the loop -/

namespace ServerRun

/-- **One turn of the loop** over a transport that refuses nothing: the session is untouched and
silent, or it handles a message and its replies tell what became of the regions. -/
theorem answers_step {r : ServerRun} (inv : r.session.memoryStore.StoreInv)
    (input : Env × WsMessage) (reliable : ∀ i, input.1.transport i = none) :
    ((r.step input).1.replies = [] ∧ (r.step input).2.session = r.session) ∨
    ∃ msg, input.2.carried = some msg ∧
      Answers msg r.session.memoryStore.handles (r.step input).1.replies
        (r.step input).2.session.memoryStore.handles := by
  rcases r.step_cases input with ⟨goesOn, -, stays⟩ | ⟨msg, -, carried, handles⟩
  · rw [stays]
    exact .inl ⟨rfl, rfl⟩
  · rw [handles]
    refine .inr ⟨msg, carried, ?_⟩
    have plan : (r.session.plan input.1.now input.1.draws msg).Upholds numbering (fun _ _ => True)
        (r.session.Answered msg) r.session.nextSeq := Session.answers_plan inv
    rcases handle_upholds (fun _ _ _ h => h) (fun _ _ _ _ answers => answers) plan with
      ends | ⟨-, -, -, i, refused⟩
    · exact ends
    · exact absurd (reliable i) refused

end ServerRun

end Rdows
