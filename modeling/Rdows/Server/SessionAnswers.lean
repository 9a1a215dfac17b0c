import Rdows.Server.SessionRuns

/-!
# What a request is answered with

The session as a client sees it over a channel that loses nothing: every send succeeds
(`Env.reliable`).  A message is then handled by playing its plan to the end (`ServerRun.step_plan`).

## Numbers

The replies of a session are numbered consecutively (`ServerRun.numbered_step`), whatever frames it
gets.

## Answers

A request of one frame is answered by exactly one reply, or the plan crashes before it sends any
(`Plan.AnswersOnce`).  There is one lemma for each kind of request, which says what the reply tells
about the memory store.  The two halves of a SEND are answered once between them, and so are those
of a WRITE that is accepted.

Each lemma speaks of the store before and after the request, and leaves open how the plan got there:
an acknowledgement with status 0, a READ_RESP, an ATOMIC_RESP or a WRITE_COMP says that the store
did what was asked for, and with what result.  A refusal says nothing about the store here; that the
regions are then untouched is in `Server.Replies`.

## Waiting for a request

`Standing` is what a session must meet to be ready for the next frame of a request.  The plans keep
it: all that it looks at is in the `posture`, which a request of one frame does not touch.  The
window of the rate limit is not part of it, so a registration may be refused by a session that
stands ready.
-/

namespace Rdows

open Rust

/-- Every send succeeds; the clock and the draws are arbitrary. -/
def Env.reliable (now : ℕ) (draws : ℕ → UInt32) : Env := ⟨now, draws, fun _ => none⟩

/-! ### Numbers -/

/-- **A message is handled by playing its plan to the end**: the replies are all that the plan
sends, and the session is the one the plan ends with. -/
theorem ServerRun.handle_reliable (r : ServerRun) (now : ℕ) (draws : ℕ → UInt32)
    (msg : RdowsMessage) :
    (r.handle (.reliable now draws) msg).1.replies
        = (r.session.plan now draws msg).emits numbering r.session.nextSeq ∧
      (r.handle (.reliable now draws) msg).2
        = ⟨(r.session.plan now draws msg).final.renumber
              ((r.session.plan now draws msg).nextNumber r.session.nextSeq),
            (r.session.plan now draws msg).ending.IsOk ∧
              (r.session.plan now draws msg).final.state ≠ .closed⟩ := by
  have played : r.played (.reliable now draws) msg = (_, _, [] ++ _) :=
    Script.run_of_accepts (fun _ => rfl) _ _ _
  rw [handle_eq_played, played]
  exact ⟨rfl, rfl⟩

/-- A frame whose plan is known: what the turn sends, what it leaves, and whether the session goes
on. -/
theorem ServerRun.step_plan {r : ServerRun} {data : Bytes} {msg : RdowsMessage} {now : ℕ}
    {draws : ℕ → UInt32} {p : Plan} (running : r.running = true)
    (decoded : RdowsMessage.decode data = .ok msg) (plans : r.session.plan now draws msg = p) :
    (r.step (.reliable now draws, .binary data)).1.replies
        = p.emits numbering r.session.nextSeq ∧
      (r.step (.reliable now draws, .binary data)).2
        = ⟨p.final.renumber (p.nextNumber r.session.nextSeq),
            p.ending.IsOk ∧ p.final.state ≠ .closed⟩ := by
  rw [step_handle running decoded, ← plans]
  exact r.handle_reliable now draws msg

/-- **The replies of a session are numbered consecutively**, from its next number before the turn to
that after it. -/
theorem ServerRun.numbered_step (r : ServerRun) (now : ℕ) (draws : ℕ → UInt32)
    (ws : WsMessage) :
    Numbered r.session.nextSeq (r.step (.reliable now draws, ws)).1.replies
      (r.step (.reliable now draws, ws)).2.session.nextSeq := by
  rcases r.step_cases (.reliable now draws, ws) with ⟨goesOn, -, stays⟩ | ⟨msg, -, -, handles⟩
  · rw [stays]
    rfl
  · obtain ⟨replies, left⟩ := r.handle_reliable now draws msg
    rw [handles, replies, left]
    exact numbered_emits _ _

/-! ### Answers -/

namespace MemoryStore

/-- The status of a refused registration or deregistration is not that of success. -/
theorem register_status_ne_zero {draws : ℕ → UInt32} {pd : ProtectionDomain}
    {flags : AccessFlags} {len : UInt64} {s t : MemoryStore} {code : ErrorCode}
    (h : (register draws pd flags len).run s = (.err code, t)) : code.toU16 ≠ 0 := by
  have ends := register_spec draws pd flags len s
  rw [h] at ends
  cases ends <;> decide

@[inherit_doc register_status_ne_zero]
theorem deregister_status_ne_zero {pd : ProtectionDomain} {lkey : LKey} {s t : MemoryStore}
    {code : ErrorCode} (h : (deregister pd lkey).run s = (.err code, t)) : code.toU16 ≠ 0 := by
  have ends := deregister_spec pd lkey s
  rw [h] at ends
  cases ends <;> decide

end MemoryStore

namespace Handler

/-- What decides how a session handles its next request: the gate, the pending operation, the
outstanding reads, the SENDs that are still to be returned as credits, and the initial credit
count. -/
def posture (s : Session) : Gate × PendingOp × UInt32 × UInt32 × UInt32 :=
  (gate s, s.pendingOp, s.outstandingReads, s.sendsSinceLastCredit, s.icc)

variable {s : Session} {now : ℕ} {draws : ℕ → UInt32}

/-- Bringing the window of the rate limit up to date does not touch the posture. -/
theorem posture_refreshed (s : Session) (now : ℕ) : posture (s.refreshed now) = posture s := by
  unfold Session.refreshed
  split <;> rfl

end Handler

open Handler

/-- The plan is exactly one reply, and `Q` holds of it and of the session; or it crashes before it
replies. -/
def Plan.AnswersOnce (p : Plan) (Q : Session → Reply → Prop) : Prop :=
  (∃ c s, p = .crash c s) ∨ ∃ s r, p = .answer s r ∧ Q s r

namespace Session

variable {s : Session} {now : ℕ} {draws : ℕ → UInt32}

/-- A plan that calls the store answers once if it does so for whatever the call returns. -/
theorem answersOnce_calling {α : Type} {x : Method MemoryStore ErrorCode α}
    {next : Except ErrorCode α → Session → Plan} {Q : Session → Reply → Prop}
    (after : ∀ result store, x.run s.memoryStore = (.ofExcept result, store) →
      (next result { s with memoryStore := store }).AnswersOnce Q) :
    (s.calling x next).AnswersOnce Q := by
  unfold calling
  rcases called : x.run s.memoryStore with ⟨a | code | p, store⟩
  · exact after (.ok a) store called
  · exact after (.error code) store called
  · exact .inl ⟨p, _, rfl⟩

/-- The reply to MR_REG: an acknowledgement, and if its status is 0, the store has registered the
region under the keys that it names. -/
theorem answersOnce_planMrReg (s : Session) (now : ℕ) (draws : ℕ → UInt32) (wrid : UInt64)
    (payload : MrRegPayload) :
    (s.planMrReg now draws wrid payload).AnswersOnce fun t r =>
      posture t = posture s ∧ ∃ ack, r = .mrRegAck wrid ack ∧ (ack.status = 0 →
        (MemoryStore.register draws payload.pd payload.accessFlags payload.regionLen).run
          s.memoryStore = (.ok (ack.lkey, ack.rkey), t.memoryStore)) := by
  have same := posture_refreshed s now
  unfold planMrReg
  dsimp only
  split
  · exact .inr ⟨_, _, rfl, same, _, rfl,
      fun zero => absurd zero (show ErrorCode.errInternal.toU16 ≠ 0 by decide)⟩
  · refine answersOnce_calling fun result store called => .inr ⟨_, _, rfl, same, _, rfl, ?_⟩
    rcases result with code | ⟨lkey, rkey⟩
    · exact fun zero => absurd zero (MemoryStore.register_status_ne_zero called)
    · rw [← memoryStore_refreshed s now]
      exact fun _ => called

/-- The reply to MR_DEREG: an acknowledgement, and if its status is 0, the store has taken the
region out. -/
theorem answersOnce_planMrDereg (s : Session) (wrid : UInt64) (payload : MrDeregPayload) :
    (s.planMrDereg wrid payload).AnswersOnce fun t r =>
      posture t = posture s ∧ ∃ ack, r = .mrDeregAck wrid ack ∧ (ack.status = 0 →
        (MemoryStore.deregister payload.pd payload.lkey).run s.memoryStore
          = (.ok (), t.memoryStore)) := by
  refine answersOnce_calling fun result store called => .inr ⟨_, _, rfl, rfl, _, rfl, ?_⟩
  rcases result with code | _
  · exact fun zero => absurd zero (MemoryStore.deregister_status_ne_zero called)
  · exact fun _ => called

/-- The reply to ATOMIC_REQ. -/
theorem answersOnce_planAtomicReq (s : Session) (header : RdowsHeader)
    (payload : AtomicReqPayload) :
    (s.planAtomicReq header payload).AnswersOnce fun t r =>
      posture t = posture s ∧ ((∃ error, r = .error error) ∨
        ∃ resp, r = .atomicResp header.wrid resp ∧
          (MemoryStore.atomicOp payload.rkey payload.remoteVa payload.atomicType
            payload.operand1 payload.operand2).run s.memoryStore
              = (.ok resp.originalValue, t.memoryStore)) := by
  unfold planAtomicReq
  split
  · exact .inr ⟨_, _, rfl, rfl, .inl ⟨_, rfl⟩⟩
  · refine answersOnce_calling fun result store called => ?_
    rcases result with code | original
    · exact .inr ⟨_, _, rfl, rfl, .inl ⟨_, rfl⟩⟩
    · exact .inr ⟨_, _, rfl, rfl, .inr ⟨_, rfl, called⟩⟩

/-- The reply to READ_REQ. -/
theorem answersOnce_planReadReq (s : Session) (header : RdowsHeader) (payload : ReadReqPayload) :
    (s.planReadReq header payload).AnswersOnce fun t r =>
      t = s ∧ ((∃ error, r = .error error) ∨
        ∃ data, r = .readResp header.wrid { fragmentOffset := 0, data } ∧
          s.memoryStore.readRegion payload.rkey payload.remoteVa payload.readLen = .ok data) := by
  unfold planReadReq
  split
  · exact .inr ⟨_, _, rfl, rfl, .inl ⟨_, rfl⟩⟩
  · split
    · exact .inr ⟨_, _, rfl, rfl, .inl ⟨_, rfl⟩⟩
    · exact .inl ⟨_, _, rfl⟩
    · rename_i data read
      exact .inr ⟨_, _, rfl, rfl, .inr ⟨data, rfl, read⟩⟩

/-- The reply to the data of a WRITE that was accepted. -/
theorem answersOnce_planWriteData (payload : DataPayload) {wrid : UInt64} {rkey : RKey}
    {va len : UInt64} (awaiting : s.pendingOp = .awaitingWriteData wrid rkey va len) :
    (s.planWriteData payload).AnswersOnce fun t r =>
      posture t = posture { s with pendingOp := .none } ∧ ((∃ error, r = .error error) ∨
        r = .writeComp wrid ∧
          (MemoryStore.writeRegion rkey va payload.data).run s.memoryStore
            = (.ok (), t.memoryStore)) := by
  rw [planWriteData, awaiting]
  refine answersOnce_calling fun result store called => ?_
  rcases result with code | _
  · exact .inr ⟨_, _, rfl, rfl, .inl ⟨_, rfl⟩⟩
  · exact .inr ⟨_, _, rfl, rfl, .inr ⟨rfl, called⟩⟩

/-! ### The form of a reply -/

/-- A reply to a dispatched message has the form of the wire, if its payload is short enough. -/
theorem MayReply.withinFormat {msg : RdowsMessage} {r : Reply} (mayReply : s.MayReply msg r)
    (sessionId n : UInt32) (short : (r.under sessionId n).encodePayload.length < 2 ^ 32) :
    (r.under sessionId n).WithinFormat := by
  cases mayReply with
  | complains _ payload code text =>
      refine ⟨rfl, rfl, ?_, ?_, short⟩
      · intro h p same
        cases same
      · intro h p same
        cases same
        exact text.trans (by decide)
  | _ => exact .of_header rfl rfl short

end Session

namespace Handler

/-! ### Sessions that wait for a request -/

/-- The session is ready, expects the frame number `next`, has the operation `pending` in its
slot, reads nothing, and owes no CREDIT_UPDATE. -/
structure Standing (s : Session) (next : UInt32) (pending : PendingOp) : Prop where
  ready : s.state = .ready
  expects : s.expectedRemoteSeq = some next
  slot : s.pendingOp = pending
  reads : s.outstandingReads = 0
  credits : s.sendsSinceLastCredit < s.icc / 4

namespace Standing

variable {s s' : Session} {next : UInt32} {pending : PendingOp}

/-- What stands is read off the posture. -/
theorem of_posture (standing : Standing s next pending) (same : posture s' = posture s) :
    Standing s' next pending := by
  simp only [posture, gate, Prod.mk.injEq, Gate.mk.injEq] at same
  obtain ⟨⟨state, expected, -⟩, slot, reads, sends, icc⟩ := same
  exact ⟨state.trans standing.ready, expected.trans standing.expects, slot.trans standing.slot,
    reads.trans standing.reads, by rw [sends, icc]; exact standing.credits⟩
/-- Another number for the next reply. -/
theorem renumber (standing : Standing s next pending) (n : UInt32) :
    Standing (s.renumber n) next pending :=
  standing.of_posture rfl

/-- Accepting the number of a frame: the next one is expected. -/
theorem accepting (standing : Standing s next pending) {msg : RdowsMessage}
    (numbered : msg.header.sequence = next) : Standing (s.accepting msg) (next + 1) pending := by
  subst numbered
  exact ⟨standing.ready, rfl, standing.slot, standing.reads, standing.credits⟩

/-- Another pending operation. -/
theorem withPending (standing : Standing s next pending) (pending' : PendingOp) :
    Standing { s with pendingOp := pending' } next pending' :=
  ⟨standing.ready, standing.expects, rfl, standing.reads, standing.credits⟩

/-- Counting a SEND: the CREDIT_UPDATE that becomes due is sent. -/
theorem planCredits (standing : Standing s next pending) :
    ∃ t, Standing t next pending ∧ t.memoryStore = s.memoryStore ∧
      (s.planCredits = .done t ∨
        ∃ t' update, s.planCredits = .reply t' (.creditUpdate update) (.done t)) := by
  have fewer := standing.credits
  rw [UInt32.lt_iff_toNat_lt, UInt32.toNat_div, show (4 : UInt32).toNat = 4 from rfl] at fewer
  have noOverflow : s.sendsSinceLastCredit.toNat + (1 : UInt32).toNat < 2 ^ 32 := by
    have bound := s.icc.toNat_lt
    rw [show (1 : UInt32).toNat = 1 from rfl]
    omega
  rw [Session.planCredits, checkedAdd32, if_pos noOverflow]
  dsimp only
  split
  · refine ⟨{ s with sendsSinceLastCredit := 0 },
      ⟨standing.ready, standing.expects, standing.slot, standing.reads, ?_⟩, rfl, .inr ⟨_, _, rfl⟩⟩
    show 0 < s.icc / 4
    rw [UInt32.lt_iff_toNat_lt, UInt32.toNat_div]
    exact Nat.zero_lt_of_lt fewer
  · rename_i notDue
    exact ⟨{ s with sendsSinceLastCredit := s.sendsSinceLastCredit + 1 },
      ⟨standing.ready, standing.expects, standing.slot, standing.reads, UInt32.not_le.mp notDue⟩,
      rfl, .inl rfl⟩

end Standing

end Handler

end Rdows
