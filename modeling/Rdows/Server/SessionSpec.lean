import Rdows.Server.SessionPlan

/-!
# What a message can do

Two inversions of the plans, in which every decision of the handlers is taken apart once.  All
invariants of a session are case analyses over them.

* **States.** `Leaves` lists what a dispatched message can leave of the session, wherever its plan
  is cut short or ends (`leaves_planDispatch`).  A message that is not dispatched leaves the work of
  the session alone (`SameWork`).
* **Replies.** `MayReply` lists what a session can reply to a dispatched message, with the guard of
  each reply (`mayReply_planDispatch`).  Other messages are answered with a CONNECT_ACK or an ERROR.

Two parts of a session decide what happens to the next frame: the `Gate` that `handle_message` reads
before it dispatches, and the `Slot` that links the two halves of a SEND or WRITE.  No dispatched
message touches the gate (`Leaves.gate_eq`), and all but four leave the slot alone
(`Leaves.slot_eq`).

## Two inversions and not one

A send that fails leaves the session in the middle of its plan, so what is said about states must
hold at every reply and at the end, and needs the whole session.  What is said about replies is
about each of them alone, and does not need the state that comes after.  Keeping them apart keeps
both lists short: an invariant about counters does not go through the texts of the errors, and a
fact about the form of the replies does not go through the cases of a failing send.

Error codes come into the second one only.  What matters of them later is that no handler reports a
gap and that the texts are short, so the codes of the store are summed up as `IsAccessError`.
-/

namespace Rdows

open Rust

/-! ### Error codes of the store -/

/-- The error codes an access to the store can return.  Those of `register` and `deregister` go into
acknowledgements and are not among them. -/
def ErrorCode.IsAccessError (code : ErrorCode) : Prop :=
  code = .errInvalidMkey ∨ code = .errAccessDenied ∨ code = .errBounds ∨ code = .errAlignment ∨
    code = .errUnknownOpcode

theorem ErrorCode.IsAccessError.ne_seqGap {code : ErrorCode} (h : code.IsAccessError) :
    code ≠ .errSeqGap := by
  rcases h with rfl | rfl | rfl | rfl | rfl <;> decide

namespace MemoryStore

open ErrorCode

theorem okOr_isAccessError {α : Type} {code code' : ErrorCode} {o : Option α}
    (hcode : code.IsAccessError) (h : Outcome.okOr code o = .err code') : code'.IsAccessError := by
  rcases o with _ | a
  · cases h
    exact hcode
  · cases h

theorem entryFor_isAccessError {s : MemoryStore} {rkey : RKey} {required : AccessFlags}
    {code : ErrorCode} (h : s.entryFor rkey required = .err code) : code.IsAccessError := by
  unfold entryFor at h
  rcases hm : s.rkeyToLkey.lookup rkey.value with _ | l <;> rw [hm] at h
  · cases h
    exact .inl rfl
  · simp only [Outcome.okOr_some, Outcome.ok_bind] at h
    rcases hl : s.regions.lookup l with _ | e
    · rw [hl] at h
      cases h
      exact .inl rfl
    · simp only [hl, Outcome.okOr_some, Outcome.ok_bind] at h
      split_ifs at h
      cases h
      exact .inr (.inl rfl)

theorem validateRkey_isAccessError {s : MemoryStore} {rkey : RKey} {required : AccessFlags}
    {code : ErrorCode} (h : s.validateRkey rkey required = .err code) : code.IsAccessError := by
  unfold validateRkey at h
  rcases hentry : s.entryFor rkey required with e | c | p <;> rw [hentry] at h
  · cases h
  · cases h
    exact entryFor_isAccessError hentry
  · cases h

theorem readRegion_isAccessError {s : MemoryStore} {rkey : RKey} {offset len : UInt64}
    {code : ErrorCode} (h : s.readRegion rkey offset len = .err code) : code.IsAccessError := by
  unfold readRegion at h
  rcases hentry : s.entryFor rkey .remoteRead with e | c | p <;> rw [hentry] at h
  · rw [Outcome.ok_bind] at h
    dsimp only at h
    rcases hstop : checkedAddUsize offset.toNat len.toNat with _ | stop <;> rw [hstop] at h
    · cases h
      exact .inr (.inr (.inl rfl))
    · rw [Outcome.okOr_some, Outcome.ok_bind, slice] at h
      split_ifs at h
      cases h
      exact .inr (.inr (.inl rfl))
  · cases h
    exact entryFor_isAccessError hentry
  · cases h

/-- The errors of `write_region`. -/
theorem writeRegion_failsWith (rkey : RKey) (offset : UInt64) (data : Bytes) :
    (writeRegion rkey offset data).FailsWith IsAccessError := by
  refine .bind .get fun s => .bind (.lift fun e h => entryFor_isAccessError h) fun found => ?_
  refine .bind (.lift fun e h => okOr_isAccessError (.inr (.inr (.inl rfl))) h) fun stop => ?_
  refine .ite (.throw (.inr (.inr (.inl rfl)))) ?_
  refine .bind (.lift ?_) fun written => .modify _
  intro e h
  unfold copyFromSlice at h
  split_ifs at h

/-- The errors of `atomic_op`. -/
theorem atomicOp_failsWith (rkey : RKey) (va : UInt64) (ty : UInt8)
    (operand1 operand2 : UInt64) :
    (atomicOp rkey va ty operand1 operand2).FailsWith IsAccessError := by
  refine .bind .get fun s => .bind (.lift fun e h => entryFor_isAccessError h) fun found => ?_
  refine .ite (.throw (.inr (.inr (.inr (.inl rfl))))) ?_
  refine .bind (.lift fun e h => okOr_isAccessError (.inr (.inr (.inl rfl))) h) fun stop => ?_
  refine .ite (.throw (.inr (.inr (.inl rfl)))) ?_
  refine .bind (.lift ?_) fun word => ?_
  · intro e h
    unfold slice at h
    split_ifs at h
  refine .bind (.lift fun e h => okOr_isAccessError (.inr (.inr (.inr (.inr rfl)))) h)
    fun value => ?_
  refine .bind (.lift ?_) fun written => .bind (.modify _) fun _ => .pure _
  intro e h
  unfold copyFromSlice at h
  split_ifs at h

end MemoryStore

/-! ### Gate and slot -/

namespace Handler

/-- What `handle_message` reads before it dispatches a message. -/
@[ext]
structure Gate where
  state : SessionState
  expectedRemoteSeq : Option UInt32
  maxMsgSize : UInt32

/-- What links the two halves of a SEND or WRITE: the pending operation, and the receives that a
SEND takes from. -/
@[ext]
structure Slot where
  pendingOp : PendingOp
  recvQueueDepth : UInt32

/-- The gate of a session. -/
def gate (s : Session) : Gate := ⟨s.state, s.expectedRemoteSeq, s.maxMsgSize⟩

/-- The pending operation and the receive queue of a session. -/
def slot (s : Session) : Slot := ⟨s.pendingOp, s.recvQueueDepth⟩

/-- The reply does not report a sequence gap. -/
def notGap : RdowsMessage → Bool
  | .error _ payload => payload.errorCode ≠ .errSeqGap
  | _ => true

/-- The reply does not complete a SEND. -/
def notRecvComp : RdowsMessage → Bool
  | .recvComp _ => false
  | _ => true

/-- The messages whose handler touches the slot. -/
def touchesSlot : RdowsMessage → Bool
  | .send .. | .sendData .. | .write .. | .writeData .. => true
  | _ => false

end Handler

open Handler

namespace Session

variable {s : Session}

/-! ### What is left of the session -/

/-- What a message that is not dispatched can change: what CONNECT agrees on, the state, and the
numbers. -/
def SameWork (s t : Session) : Prop :=
  ∃ state sessionId pd maxMsgSize nextSeq expectedRemoteSeq,
    t = { s with state, sessionId, pd, maxMsgSize, nextSeq, expectedRemoteSeq }

/-- A session that is left alone. -/
theorem SameWork.refl (s : Session) : s.SameWork s := ⟨_, _, _, _, _, _, rfl⟩

/-- The next number is none of the work. -/
theorem SameWork.renumber {t : Session} (same : s.SameWork t) (n : UInt32) :
    s.SameWork (t.renumber n) := by
  obtain ⟨state, sessionId, pd, maxMsgSize, nextSeq, expected, rfl⟩ := same
  exact ⟨state, sessionId, pd, maxMsgSize, n, expected, rfl⟩

/-- The slot is part of the work. -/
theorem SameWork.slot_eq {t : Session} (same : s.SameWork t) : slot t = slot s := by
  obtain ⟨state, sessionId, pd, maxMsgSize, nextSeq, expected, rfl⟩ := same
  rfl

/-- A message that is not dispatched leaves the work of the session alone, wherever its plan is cut
short. -/
theorem Undispatched.sameWork {msg : RdowsMessage} {plan : Plan} (h : s.Undispatched msg plan)
    (n : UInt32) : plan.Throughout numbering (fun _ t => s.SameWork t) n := by
  have same := SameWork.refl s
  cases h with
  | connects _ awaiting =>
      cases msg with
      | connect header payload =>
          unfold planConnect
          dsimp only
          split
          · exact ⟨same, _, _, _, _, _, _, rfl⟩
          · exact ⟨⟨_, _, _, _, _, _, rfl⟩, _, _, _, _, _, _, rfl⟩
      | _ => exact same
  | closed => exact same
  | oversize => exact ⟨same, same⟩
  | gap _ expected => exact ⟨same, same⟩
  | disconnect header => exact ⟨_, _, _, _, _, _, rfl⟩
  | creditUpdate header payload => exact ⟨_, _, _, _, _, _, rfl⟩

/-- A plan that calls the store: the store that is left is the same whether the call returned,
failed or panicked. -/
theorem upholds_calling {α : Type} {s : Session} {n : UInt32} {x : Method MemoryStore ErrorCode α}
    {next : Except ErrorCode α → Session → Plan} {cut : List RdowsMessage → Session → Prop}
    {ends : Outcome RdowsError Unit → List RdowsMessage → Session → Prop}
    (crashes : ∀ p, (x.run s.memoryStore).1 = .panic p →
      ends (.panic p) [] { s with memoryStore := (x.run s.memoryStore).2 })
    (goesOn : ∀ result, (x.run s.memoryStore).1 = .ofExcept result →
      (next result { s with memoryStore := (x.run s.memoryStore).2 }).Upholds numbering cut ends
        n) :
    (s.calling x next).Upholds numbering cut ends n := by
  unfold calling
  rcases called : x.run s.memoryStore with ⟨a | code | p, store⟩ <;>
    rw [called] at crashes goesOn
  · exact goesOn (.ok a) rfl
  · exact goesOn (.error code) rfl
  · exact crashes p rfl

/-- Bringing the window of the rate limit up to date does not concern the store. -/
theorem memoryStore_refreshed (s : Session) (now : ℕ) :
    (s.refreshed now).memoryStore = s.memoryStore := by
  unfold refreshed
  split <;> rfl

/-- The message asks for a registration. -/
def isMrReg : RdowsMessage → Bool
  | .mrReg _ _ => true
  | _ => false

/-- **What a dispatched message can leave of the session**, whatever has been sent by then.

An MR_REG is refused by the rate limit or calls the store.  A SEND is turned down if no receive is
posted, and its data will be discarded once it has been told so; otherwise it takes a receive.  A
WRITE is declined or announces its data.  SEND_DATA and WRITE_DATA take the pending operation out,
whatever it is.  The other messages call the store, or leave the session as it was. -/
inductive Leaves (s : Session) (now : ℕ) (draws : ℕ → UInt32) : RdowsMessage → Session → Prop
  | refuses (header : RdowsHeader) (payload : MrRegPayload)
      (full : (s.refreshed now).mrRegRateLimit ≤ (s.refreshed now).mrRegCount)
      (nextSeq : UInt32) :
      Leaves s now draws (.mrReg header payload) { s.refreshed now with nextSeq }
  | registers (header : RdowsHeader) (payload : MrRegPayload)
      (room : ¬ (s.refreshed now).mrRegRateLimit ≤ (s.refreshed now).mrRegCount)
      (nextSeq : UInt32) :
      Leaves s now draws (.mrReg header payload) { s.refreshed now with
        mrRegCount := (s.refreshed now).mrRegCount + 1
        memoryStore := ((MemoryStore.register draws payload.pd payload.accessFlags
          payload.regionLen).run s.memoryStore).2
        nextSeq }
  | deregisters (header : RdowsHeader) (payload : MrDeregPayload) (nextSeq : UInt32) :
      Leaves s now draws (.mrDereg header payload) { s with
        memoryStore := ((MemoryStore.deregister payload.pd payload.lkey).run s.memoryStore).2
        nextSeq }
  | turnsDown (header : RdowsHeader) (payload : SendPayload) (empty : s.recvQueueDepth = 0)
      (nextSeq : UInt32) : Leaves s now draws (.send header payload) { s with nextSeq }
  | discards (header : RdowsHeader) (payload : SendPayload) (empty : s.recvQueueDepth = 0)
      (nextSeq : UInt32) :
      Leaves s now draws (.send header payload) { s with pendingOp := .discardingSendData, nextSeq }
  | accepts (header : RdowsHeader) (payload : SendPayload) (posted : s.recvQueueDepth ≠ 0)
      (nextSeq : UInt32) :
      Leaves s now draws (.send header payload) { s with
        recvQueueDepth := s.recvQueueDepth - 1
        pendingOp := .awaitingSendData header.wrid
        nextSeq }
  | receives (header : RdowsHeader) (payload : DataPayload)
      (sendsSinceLastCredit nextSeq : UInt32) :
      Leaves s now draws (.sendData header payload)
        { s with pendingOp := .none, sendsSinceLastCredit, nextSeq }
  | declines (header : RdowsHeader) (payload : WritePayload)
      (invalid : ∀ entry, s.memoryStore.validateRkey payload.rkey .remoteWrite ≠ .ok entry)
      (nextSeq : UInt32) : Leaves s now draws (.write header payload) { s with nextSeq }
  | announces (header : RdowsHeader) (payload : WritePayload) {entry : MemoryRegionEntry}
      (valid : s.memoryStore.validateRkey payload.rkey .remoteWrite = .ok entry)
      (nextSeq : UInt32) :
      Leaves s now draws (.write header payload) { s with
        pendingOp := .awaitingWriteData header.wrid payload.rkey payload.remoteVa payload.length
        nextSeq }
  | writes (header : RdowsHeader) (payload : DataPayload) {wrid : UInt64} {rkey : RKey}
      {va len : UInt64} (awaits : s.pendingOp = .awaitingWriteData wrid rkey va len)
      (nextSeq : UInt32) :
      Leaves s now draws (.writeData header payload) { s with
        pendingOp := .none
        memoryStore := ((MemoryStore.writeRegion rkey va payload.data).run s.memoryStore).2
        nextSeq }
  | ignores (header : RdowsHeader) (payload : DataPayload)
      (other : ∀ wrid rkey va len, s.pendingOp ≠ .awaitingWriteData wrid rkey va len)
      (nextSeq : UInt32) :
      Leaves s now draws (.writeData header payload) { s with pendingOp := .none, nextSeq }
  | counts (header : RdowsHeader) (payload : ReadReqPayload) (outstandingReads nextSeq : UInt32) :
      Leaves s now draws (.readReq header payload) { s with outstandingReads, nextSeq }
  | updates (header : RdowsHeader) (payload : AtomicReqPayload) (nextSeq : UInt32) :
      Leaves s now draws (.atomicReq header payload) { s with
        memoryStore := ((MemoryStore.atomicOp payload.rkey payload.remoteVa payload.atomicType
          payload.operand1 payload.operand2).run s.memoryStore).2
        nextSeq }
  | stays {msg : RdowsMessage} (noMrReg : isMrReg msg = false) (whole : touchesSlot msg = false)
      (nextSeq : UInt32) : Leaves s now draws msg { s with nextSeq }

/-- The next number is not among what `Leaves` looks at. -/
theorem Leaves.renumber {now : ℕ} {draws : ℕ → UInt32} {msg : RdowsMessage} {t : Session}
    (leaves : s.Leaves now draws msg t) (n : UInt32) : s.Leaves now draws msg (t.renumber n) := by
  cases leaves with
  | refuses header payload full => exact .refuses header payload full n
  | registers header payload room => exact .registers header payload room n
  | deregisters header payload => exact .deregisters header payload n
  | turnsDown header payload empty => exact .turnsDown header payload empty n
  | discards header payload empty => exact .discards header payload empty n
  | accepts header payload posted => exact .accepts header payload posted n
  | receives header payload sends => exact .receives header payload sends n
  | declines header payload invalid => exact .declines header payload invalid n
  | announces header payload valid => exact .announces header payload valid n
  | writes header payload awaits => exact .writes header payload awaits n
  | ignores header payload other => exact .ignores header payload other n
  | counts header payload reads => exact .counts header payload reads n
  | updates header payload => exact .updates header payload n
  | stays noMrReg whole => exact .stays noMrReg whole n

/-- **Wherever the plan of a dispatched message is cut short or ends**, the session is in one of the
listed states. -/
theorem leaves_planDispatch (s : Session) (now : ℕ) (draws : ℕ → UInt32) (msg : RdowsMessage)
    (n : UInt32) :
    (s.planDispatch now draws msg).Throughout numbering (fun _ t => s.Leaves now draws msg t)
      n := by
  cases msg with
  | mrReg header payload =>
      unfold planDispatch planMrReg
      dsimp only
      split
      · rename_i full
        have refuses : s.Leaves now draws (.mrReg header payload) (s.refreshed now) :=
          .refuses header payload full _
        exact ⟨refuses, refuses⟩
      · rename_i room
        have registers : s.Leaves now draws _ _ :=
          .registers header payload room (s.refreshed now).nextSeq
        -- The call is made on the refreshed session, which has the same store.
        rw [← s.memoryStore_refreshed now] at registers
        exact upholds_calling (fun _ _ => registers) fun result _ => ⟨registers, registers⟩
  | mrDereg header payload =>
      have deregisters : s.Leaves now draws _ _ := .deregisters header payload s.nextSeq
      unfold planDispatch planMrDereg
      exact upholds_calling (fun _ _ => deregisters) fun result _ => ⟨deregisters, deregisters⟩
  | send header payload =>
      unfold planDispatch planSend
      dsimp only
      split
      · rename_i empty
        exact ⟨.turnsDown header payload empty _, .discards header payload empty s.nextSeq⟩
      · rename_i posted
        exact .accepts header payload posted s.nextSeq
  | sendData header payload =>
      have receives (sends : UInt32) : s.Leaves now draws (.sendData header payload)
          { s with pendingOp := .none, sendsSinceLastCredit := sends } :=
        .receives header payload sends s.nextSeq
      unfold planDispatch planSendData planCredits
      dsimp only
      split
      · refine ⟨receives _, ?_⟩
        split
        · exact receives _
        · split
          · exact ⟨receives _, receives _⟩
          · exact receives _
      · exact receives _
      · exact ⟨receives _, receives _⟩
      · exact ⟨receives _, receives _⟩
  | write header payload =>
      unfold planDispatch planWrite
      dsimp only
      split
      · rename_i code refused
        have declines : s.Leaves now draws (.write header payload) s :=
          .declines header payload (fun entry valid => nomatch refused.symm.trans valid) s.nextSeq
        exact ⟨declines, declines⟩
      · rename_i p panics
        exact .declines header payload (fun entry valid => nomatch panics.symm.trans valid)
          s.nextSeq
      · rename_i entry valid
        exact .announces header payload valid s.nextSeq
  | writeData header payload =>
      unfold planDispatch planWriteData
      dsimp only
      split
      · rename_i wrid rkey va len awaits
        have writes : s.Leaves now draws _ _ := .writes header payload awaits s.nextSeq
        refine upholds_calling (fun _ _ => writes) fun result _ => ?_
        rcases result with code | _
        · exact ⟨writes, writes⟩
        · exact ⟨writes, writes⟩
      all_goals
        rename_i other
        have ignores :
            s.Leaves now draws (.writeData header payload) { s with pendingOp := .none } :=
          .ignores header payload (fun _ _ _ _ awaits => nomatch other.symm.trans awaits) s.nextSeq
        exact ⟨ignores, ignores⟩
  | readReq header payload =>
      have stays : s.Leaves now draws (.readReq header payload) s := .stays rfl rfl s.nextSeq
      unfold planDispatch planReadReq
      dsimp only
      split
      · exact ⟨stays, stays⟩
      · split
        · exact ⟨stays, stays⟩
        · exact .counts header payload _ s.nextSeq
        · exact ⟨stays, stays⟩
  | atomicReq header payload =>
      unfold planDispatch planAtomicReq
      dsimp only
      split
      · have stays : s.Leaves now draws (.atomicReq header payload) s := .stays rfl rfl s.nextSeq
        exact ⟨stays, stays⟩
      · have updates : s.Leaves now draws _ _ := .updates header payload s.nextSeq
        refine upholds_calling (fun _ _ => updates) fun result _ => ?_
        rcases result with code | _
        · exact ⟨updates, updates⟩
        · exact ⟨updates, updates⟩
  | ack header => exact .stays rfl rfl s.nextSeq
  | _ => exact ⟨.stays rfl rfl s.nextSeq, .stays rfl rfl s.nextSeq⟩

section Leaves

variable {now : ℕ} {draws : ℕ → UInt32} {msg : RdowsMessage} {t : Session}

/-- **A dispatched message does not touch the gate**: the session stays Ready, and the size and the
number that it expects are those it had when the message was accepted. -/
theorem Leaves.gate_eq (leaves : s.Leaves now draws msg t) : gate t = gate s := by
  have refreshed : gate (s.refreshed now) = gate s := by
    unfold Session.refreshed
    split <;> rfl
  cases leaves with
  | refuses | registers => exact refreshed
  | _ => rfl

/-- **Messages other than the halves of SEND and WRITE do not touch the slot**, so an operation that
waits for its data keeps waiting. -/
theorem Leaves.slot_eq (leaves : s.Leaves now draws msg t) (whole : touchesSlot msg = false) :
    slot t = slot s := by
  have refreshed : slot (s.refreshed now) = slot s := by
    unfold Session.refreshed
    split <;> rfl
  cases leaves with
  | refuses | registers => exact refreshed
  | deregisters | counts | updates | stays => rfl
  | _ => cases whole

end Leaves

/-! ### What is replied -/

/-- The replies of a plan that calls the store are those it makes to what the call returned. -/
theorem each_calling {α : Type} {P : Session → Reply → Prop} {t : Session}
    {x : Method MemoryStore ErrorCode α} {next : Except ErrorCode α → Session → Plan}
    (goesOn : ∀ result, (x.run t.memoryStore).1 = .ofExcept result →
      (next result { t with memoryStore := (x.run t.memoryStore).2 }).Each P) :
    (t.calling x next).Each P := by
  unfold calling
  rcases called : x.run t.memoryStore with ⟨a | code | p, store⟩ <;> rw [called] at goesOn
  · exact goesOn (.ok a) rfl
  · exact goesOn (.error code) rfl
  · trivial

/-- **What the session can reply to a dispatched message.**  No handler reports a gap, and no text
of an ERROR is long. -/
inductive MayReply (s : Session) : RdowsMessage → Reply → Prop
  | complains (msg : RdowsMessage) (payload : ErrorPayload)
      (code : payload.errorCode ≠ .errSeqGap)
      (text : (utf8Bytes payload.description).length ≤ 47) : MayReply s msg (.error payload)
  | mrRegAck (header : RdowsHeader) (payload : MrRegPayload) (ack : MrRegAckPayload) :
      MayReply s (.mrReg header payload) (.mrRegAck header.wrid ack)
  | mrDeregAck (header : RdowsHeader) (payload : MrDeregPayload) (ack : MrDeregAckPayload) :
      MayReply s (.mrDereg header payload) (.mrDeregAck header.wrid ack)
  | recvComp (header : RdowsHeader) (payload : DataPayload) {wrid : UInt64}
      (awaits : s.pendingOp = .awaitingSendData wrid) :
      MayReply s (.sendData header payload) (.recvComp wrid)
  | creditUpdate (header : RdowsHeader) (payload : DataPayload) (update : CreditUpdatePayload) :
      MayReply s (.sendData header payload) (.creditUpdate update)
  | writeComp (header : RdowsHeader) (payload : DataPayload) {wrid : UInt64} {rkey : RKey}
      {va len : UInt64} (awaits : s.pendingOp = .awaitingWriteData wrid rkey va len) :
      MayReply s (.writeData header payload) (.writeComp wrid)
  | readResp (header : RdowsHeader) (payload : ReadReqPayload) {data : Bytes}
      (read : s.memoryStore.readRegion payload.rkey payload.remoteVa payload.readLen = .ok data) :
      MayReply s (.readReq header payload) (.readResp header.wrid { fragmentOffset := 0, data })
  | atomicResp (header : RdowsHeader) (payload : AtomicReqPayload) (resp : AtomicRespPayload) :
      MayReply s (.atomicReq header payload) (.atomicResp header.wrid resp)

/-- An ERROR with a short text that reports no gap. -/
theorem each_complain {t : Session} {msg : RdowsMessage} {code : ErrorCode} {failingSeq : UInt32}
    {description : String} (noGap : code ≠ .errSeqGap)
    (text : (utf8Bytes description).length ≤ 47) :
    (t.complain code failingSeq description).Each fun _ r => s.MayReply msg r :=
  ⟨.complains msg _ noGap text, trivial⟩

/-- **Every reply to a dispatched message** is one of those listed, and its guard holds. -/
theorem mayReply_planDispatch (s : Session) (now : ℕ) (draws : ℕ → UInt32) (msg : RdowsMessage) :
    (s.planDispatch now draws msg).Each fun _ r => s.MayReply msg r := by
  -- the guards are the tests of the handlers; of an ERROR only its code and the length of its text
  -- matter
  cases msg with
  | mrReg header payload =>
      unfold planDispatch planMrReg
      dsimp only
      split
      · exact ⟨.mrRegAck header payload _, trivial⟩
      · exact each_calling fun result _ => ⟨.mrRegAck header payload _, trivial⟩
  | mrDereg header payload =>
      unfold planDispatch planMrDereg
      exact each_calling fun result _ => ⟨.mrDeregAck header payload _, trivial⟩
  | send header payload =>
      unfold planDispatch planSend
      dsimp only
      split
      · exact ⟨.complains _ ⟨_, _, _⟩ (show ErrorCode.errRnr ≠ .errSeqGap by decide)
          (show (utf8Bytes "receiver not ready").length ≤ 47 by decide), trivial⟩
      · trivial
  | sendData header payload =>
      unfold planDispatch planSendData planCredits
      dsimp only
      split
      · rename_i wrid awaits
        refine ⟨.recvComp header payload awaits, ?_⟩
        split
        · trivial
        · split
          · exact ⟨.creditUpdate header payload _, trivial⟩
          · trivial
      · trivial
      · exact each_complain (by decide) (by decide)
      · exact each_complain (by decide) (by decide)
  | write header payload =>
      unfold planDispatch planWrite
      dsimp only
      split
      · rename_i code refused
        exact each_complain (MemoryStore.validateRkey_isAccessError refused).ne_seqGap (by decide)
      · trivial
      · trivial
  | writeData header payload =>
      unfold planDispatch planWriteData
      dsimp only
      split
      · rename_i wrid rkey va len awaits
        refine each_calling fun result returned => ?_
        rcases result with code | _
        · have access := MemoryStore.writeRegion_failsWith rkey va payload.data _ code _
            (Prod.ext returned rfl)
          exact each_complain access.ne_seqGap (by decide)
        · exact ⟨.writeComp header payload awaits, trivial⟩
      all_goals exact each_complain (by decide) (by decide)
  | readReq header payload =>
      unfold planDispatch planReadReq
      dsimp only
      split
      · exact each_complain (by decide) (by decide)
      · split
        · rename_i code refused
          exact each_complain (MemoryStore.readRegion_isAccessError refused).ne_seqGap (by decide)
        · trivial
        · rename_i data read
          exact ⟨.readResp header payload read, trivial⟩
  | atomicReq header payload =>
      unfold planDispatch planAtomicReq
      dsimp only
      split
      · exact each_complain (by decide) (by decide)
      · refine each_calling fun result returned => ?_
        rcases result with code | original
        · have access := MemoryStore.atomicOp_failsWith payload.rkey payload.remoteVa
            payload.atomicType payload.operand1 payload.operand2 _ code _ (Prod.ext returned rfl)
          exact each_complain access.ne_seqGap (by decide)
        · exact ⟨.atomicResp header payload _, trivial⟩
  | ack header => trivial
  | _ => exact each_complain (by decide) (by decide)

/-- No handler reports a gap in the sequence numbers. -/
theorem MayReply.notGap {msg : RdowsMessage} {r : Reply} (mayReply : s.MayReply msg r)
    (sessionId n : UInt32) : notGap (r.under sessionId n) := by
  cases mayReply with
  | complains _ payload code => exact decide_eq_true code
  | _ => rfl

/-- Only the data of a SEND is answered with a RECV_COMP. -/
theorem MayReply.notRecvComp {msg : RdowsMessage} {r : Reply} (mayReply : s.MayReply msg r)
    (other : ∀ header payload, msg ≠ .sendData header payload) (sessionId n : UInt32) :
    notRecvComp (r.under sessionId n) := by
  cases mayReply with
  | recvComp header payload => exact absurd rfl (other header payload)
  | _ => rfl

/-- The text that reports a gap. -/
theorem length_gapText_le (expected got : UInt32) :
    (utf8Bytes s!"expected seq {expected}, got {got}").length ≤ 47 := by
  have digits (n : UInt32) : (utf8Bytes n.toNat.repr).length ≤ 10 :=
    length_utf8Bytes_repr_le (by decide) (Nat.lt_trans n.toNat_lt (by decide))
  have fixed : (utf8Bytes "expected seq ").length = 13 ∧ (utf8Bytes ", got ").length = 6 := by
    decide
  have first := digits expected
  have second := digits got
  show (utf8Bytes ("expected seq " ++ expected.toNat.repr ++ ", got " ++ got.toNat.repr)).length ≤ _
  rw [utf8Bytes_append, utf8Bytes_append, utf8Bytes_append]
  simp only [List.length_append, fixed]
  omega

/-- What is replied to a message that is not dispatched: the answer to a CONNECT, or an ERROR. -/
theorem Undispatched.mayReply {msg : RdowsMessage} {plan : Plan} (h : s.Undispatched msg plan) :
    plan.Each fun _ r => (∃ ack, s.state = .awaitingConnect ∧ r = .connectAck ack) ∨
      ∃ payload : ErrorPayload, r = .error payload ∧
        (utf8Bytes payload.description).length ≤ 47 := by
  cases h with
  | connects _ awaiting =>
      cases msg with
      | connect header payload =>
          unfold planConnect
          dsimp only
          split
          · exact ⟨.inr ⟨_, rfl,
              show (utf8Bytes "unsupported protocol version").length ≤ 47 by decide⟩, trivial⟩
          · exact ⟨.inl ⟨_, awaiting, rfl⟩, trivial⟩
      | _ => trivial
  | closed => trivial
  | oversize => exact ⟨.inr ⟨_, rfl, show (utf8Bytes
      "payload exceeds negotiated maximum message size").length ≤ 47 by decide⟩, trivial⟩
  | gap _ expected => exact ⟨.inr ⟨_, rfl, length_gapText_le _ _⟩, trivial⟩
  | disconnect header => trivial
  | creditUpdate header payload => trivial

end Session

end Rdows
