import Rdows.Network.Basic

/-!
# Every request is answered once

The server session as a `Service`, and what it owes for the frames of a call.

## From a frame to a plan

`Arrives m m'` says that the server reads `m'` from the frame of `m`.  The two only differ in the
payload length, except for a SEND, whose list may be cut short: a client does not check that its
list fits the 16-bit count, and the answer must not depend on that.  An admitted frame with the
expected number reaches its handler (`Arrives.serve`), and the plan of the handler is all that is
needed from then on.

## From plans to debts

* `owes_of_plan`: one frame of a request, from the plan of its handler.  A plan that crashes before
  it sends anything takes the server away, and a service that is gone owes nothing.
* `owes_of_answersOnce`: the last frame, with a plan that is exactly one reply.
* `Verb.Requests.owes`: **a session that stands ready for a request owes exactly one answer for
  it**, and stands ready for the next one after the last frame.  The cases are the verbs; a SEND
  that finds no receive is answered at its first frame, and its data is discarded silently.

## What an answer tells

The answer tells what was done to the store (`Verb.Answer`), and `Verb.Requests.applied` says that
what a call reports is what its answer tells.  Together with the agreement of requests and answers,
a call that succeeded did what it says.
-/

namespace Rdows

open Rust Handler

/-! ### The session as a service -/

/-- The message that may come at any time.  Every other message that a server sends answers a
frame. -/
def RdowsMessage.isCreditUpdate : RdowsMessage → Bool
  | .creditUpdate _ _ => true
  | _ => false

namespace Network

/-- The server behind a transport: its frames carry the number of the call they belong to, and its
replies have to be read as they are. -/
def service (t : Transport) :
    Service ServerRun (ℕ × (ℕ → UInt32)) (ℕ × Bytes) RdowsMessage where
  serve r env frame :=
    let out := r.step (.reliable env.1 env.2, t.deliver frame.2)
    (out.1.replies, out.2)
  alive r := r.running
  admits r env frame := admits t r env frame.2
  notice := RdowsMessage.isCreditUpdate
  fits m := m.WithinFormat ∧ t.fits m.encode = true

/-- The server stands ready for the request with the number `next`: its session is Ready, and
nothing is pending. -/
def Rest (next : UInt32) (r : ServerRun) : Prop := Standing r.session next .none

/-- The server reads `m'` from the frame of `m`: the header is the one that was written, and it is
no control message. -/
structure Arrives (m m' : RdowsMessage) : Prop where
  decoded : m.encodePayload.length < 2 ^ 32 → RdowsMessage.decode m.encode = .ok m'
  header : m'.header = m.wireHeader
  request : Session.isControl m' = false

/-- A message other than a SEND arrives with its payload length filled in. -/
theorem arrives_canonical {m : RdowsMessage} {sessionId sequence : UInt32} {wrid : UInt64}
    (header : m.header = RdowsHeader.new m.variantOpcode sessionId sequence wrid)
    (plain : m.isPlain = true) (request : Session.isControl m.canonical = false) :
    Arrives m m.canonical where
  decoded fits := RdowsMessage.decode_encode_eq (.of_header header plain fits)
  header := RdowsMessage.header_withHeader _ _
  request := request

section Admitted

variable {t : Transport} {r : ServerRun} {env : ℕ × (ℕ → UInt32)} {frame : Bytes}

/-- What an admitted frame that is delivered meets: the three conditions on its size, its key and
its replies. -/
theorem admits_cases (admitted : admits t r env frame = true) (within : t.fits frame = true) :
    frame.length ≤ headerSize + r.session.maxMsgSize.toNat ∧ writesAllowed r frame = true ∧
      carries t (r.step (.reliable env.1 env.2, .binary frame)).1.replies = true := by
  rw [admits, within, Bool.not_true, Bool.false_or, Bool.and_eq_true_iff,
    Bool.and_eq_true_iff] at admitted
  exact ⟨of_decide_eq_true admitted.1, admitted.2⟩

/-- A frame that is admitted and delivered is not too large. -/
theorem payload_le_of_admits {m : RdowsMessage} (admitted : admits t r env m.encode = true)
    (within : t.fits m.encode = true) :
    m.encodePayload.length ≤ r.session.maxMsgSize.toNat := by
  have size := (admits_cases admitted within).1
  rw [RdowsMessage.length_encode] at size
  omega

theorem Arrives.decoded_of_admits {m m' : RdowsMessage} (arrives : Arrives m m')
    (admitted : admits t r env m.encode = true) (within : t.fits m.encode = true) :
    RdowsMessage.decode m.encode = .ok m' :=
  arrives.decoded (lt_of_le_of_lt (payload_le_of_admits admitted within) (UInt32.toNat_lt _))

/-- A WRITE that is allowed passes the check of its key. -/
theorem accepted_of_allowed {header : RdowsHeader} {payload : WritePayload}
    (allowed : writesAllowed r frame = true)
    (decoded : RdowsMessage.decode frame = .ok (.write header payload)) :
    ∃ entry, r.session.memoryStore.validateRkey payload.rkey .remoteWrite = .ok entry := by
  rw [writesAllowed, decoded] at allowed
  have isOk := of_decide_eq_true allowed
  rcases valid : r.session.memoryStore.validateRkey payload.rkey .remoteWrite with entry | e | p
  · exact ⟨entry, rfl⟩
  · rw [valid] at isOk
    cases isOk
  · rw [valid] at isOk
    cases isOk

/-- Serving a frame that is not delivered: the session ends without a reply. -/
theorem serve_of_not_fits {call : ℕ} (running : r.running = true) (beyond : t.fits frame = false) :
    (service t).serve r env (call, frame) = ([], { r with running := false }) := by
  show ((r.step (_, t.deliver frame)).1.replies, (r.step (_, t.deliver frame)).2) = _
  rw [Transport.deliver_of_not_fits beyond, ServerRun.step, if_pos running]

/-- The replies to an admitted frame are carried. -/
theorem carried_of_admits (admitted : admits t r env frame = true) (within : t.fits frame = true)
    (call : ℕ) : ∀ m ∈ ((service t).serve r env (call, frame)).1,
      m.encodePayload.length < 2 ^ 32 ∧ t.fits m.encode = true := by
  intro m mem
  have carried := List.all_eq_true.mp (admits_cases admitted within).2.2 m
  have replies : ((service t).serve r env (call, frame)).1
      = (r.step (.reliable env.1 env.2, .binary frame)).1.replies := by
    show (r.step (_, t.deliver frame)).1.replies = _
    rw [Transport.deliver_of_fits within]
  rw [replies] at mem
  obtain ⟨short, fits⟩ := Bool.and_eq_true_iff.mp (carried mem)
  exact ⟨of_decide_eq_true short, fits⟩

/-- An admitted frame with the expected number reaches its handler, if it is delivered: the plan of
the handler is played to its end. -/
theorem Arrives.serve {m m' : RdowsMessage} (arrives : Arrives m m') {next : UInt32}
    {pending : PendingOp} (standing : Standing r.session next pending)
    (numbered : m.header.sequence = next) (running : r.running = true)
    (admitted : admits t r env m.encode = true) (within : t.fits m.encode = true) (call : ℕ) :
    (service t).serve r env (call, m.encode) =
      let p := (r.session.accepting m').planDispatch env.1 env.2 m'
      (p.emits numbering r.session.nextSeq,
        ⟨p.final.renumber (p.nextNumber r.session.nextSeq),
          p.ending.IsOk ∧ p.final.state ≠ .closed⟩) := by
  have size := payload_le_of_admits admitted within
  have bound := r.session.maxMsgSize.toNat_lt
  have reaches : r.session.ReachesDispatch m' := by
    refine ⟨standing.ready, ?_, ?_, arrives.request⟩
    · rw [arrives.header, UInt32.not_lt, UInt32.le_iff_toNat_le]
      show (UInt32.ofNat m.encodePayload.length).toNat ≤ _
      rw [UInt32.toNat_ofNat_of_lt' (lt_of_le_of_lt size bound)]
      exact size
    · intro expected h
      rw [standing.expects] at h
      cases h
      rw [arrives.header]
      exact numbered
  obtain ⟨replies, left⟩ := ServerRun.step_plan running (arrives.decoded_of_admits admitted within)
    (Session.plan_of_reaches reaches env.1 env.2)
  show ((r.step (_, t.deliver m.encode)).1.replies, (r.step (_, t.deliver m.encode)).2) = _
  rw [Transport.deliver_of_fits within, replies, left]

end Admitted

/-! ### One frame of a request -/

section Owes

variable {t : Transport} {m m' : RdowsMessage} {r : ServerRun} {next : UInt32}
  {pending : PendingOp} {call : ℕ} {rest : ServerRun → Prop} {frames : List (ℕ × Bytes)}
  {goal : Option (ℕ × Bytes → ServerRun → ServerRun → RdowsMessage → Prop)}

/-- **One frame, from the plan of its handler.**  The plan crashes before it sends anything, or it
ends with a session that goes on. -/
theorem owes_of_plan (arrives : Arrives m m') (standing : Standing r.session next pending)
    (numbered : m.header.sequence = next)
    (plays : Standing (r.session.accepting m') (next + 1) pending →
      writesAllowed r m.encode = true → RdowsMessage.decode m.encode = .ok m' →
      ∀ now draws, ∃ p, (r.session.accepting m').planDispatch now draws m' = p ∧
        ((∃ c s, p = .crash c s) ∨ p.ending = .ok () ∧ p.final.state = .ready ∧
          (((service t).answers (p.emits numbering r.session.nextSeq) = [] ∧
              (service t).Owes rest frames goal
                ⟨p.final.renumber (p.nextNumber r.session.nextSeq), true⟩) ∨
            ∃ meets reply, goal = some meets ∧
              (service t).answers (p.emits numbering r.session.nextSeq) = [reply] ∧
              meets (call, m.encode) r
                ⟨p.final.renumber (p.nextNumber r.session.nextSeq), true⟩ reply ∧
              (service t).Owes rest frames none
                ⟨p.final.renumber (p.nextNumber r.session.nextSeq), true⟩))) :
    (service t).Owes rest ((call, m.encode) :: frames) goal r := by
  apply Service.Owes.cons
  intro running env admitted
  -- a frame that the transport does not take ends the connection, and nothing is owed any more
  rcases within : t.fits m.encode with _ | _
  · exact ⟨_, _, serve_of_not_fits running within, by simp, .inl ⟨rfl, .of_not_alive _ rfl⟩⟩
  have served := arrives.serve standing numbered running admitted within call
  have carried := carried_of_admits admitted within call
  have replies := (r.session.accepting m').mayReply_planDispatch env.1 env.2 m'
  have stands : Standing (r.session.accepting m') (next + 1) pending := by
    refine standing.accepting ?_
    rw [arrives.header]
    exact numbered
  obtain ⟨p, plan, crashes | ⟨ends, ready, later⟩⟩ := plays stands
    (admits_cases admitted within).2.1 (arrives.decoded_of_admits admitted within) env.1 env.2
  -- so does a crash of the server
  · obtain ⟨c, s, rfl⟩ := crashes
    rw [plan] at served
    have stops : decide ((Outcome.panic c : Outcome RdowsError Unit).IsOk ∧ s.state ≠ .closed)
        = false := decide_eq_false And.left
    exact ⟨_, _, served, List.forall_mem_nil _, .inl ⟨rfl, .of_not_alive _ stops⟩⟩
  · rw [plan] at served replies
    have goesOn : decide (p.ending.IsOk ∧ p.final.state ≠ .closed) = true := by
      rw [ends, ready]
      rfl
    dsimp only at served
    rw [goesOn] at served
    rw [served] at carried
    refine ⟨_, _, served, fun reply mem => ⟨?_, (carried reply mem).2⟩, later⟩
    obtain ⟨s, k, r, mayReply, rfl⟩ := replies.emits _ reply mem
    exact mayReply.withinFormat _ _ (carried _ mem).1

/-- The last frame of a request, with a plan that is exactly one reply. -/
theorem owes_of_answersOnce (arrives : Arrives m m') (standing : Standing r.session next pending)
    (numbered : m.header.sequence = next)
    {meets : ℕ × Bytes → ServerRun → ServerRun → RdowsMessage → Prop}
    (once : Standing (r.session.accepting m') (next + 1) pending → ∀ now draws,
      ((r.session.accepting m').planDispatch now draws m').AnswersOnce fun s reply =>
        Standing s (next + 1) .none ∧ ∀ n, (reply.under s.sessionId n).isCreditUpdate = false ∧
          meets (call, m.encode) r ⟨s.renumber (n + 1), true⟩ (reply.under s.sessionId n)) :
    (service t).Owes (Rest (next + 1)) [(call, m.encode)] (some meets) r := by
  refine owes_of_plan arrives standing numbered fun stands _ _ now draws => ⟨_, rfl, ?_⟩
  refine (once stands now draws).imp id ?_
  rintro ⟨s, reply, plan, stands, tells⟩
  obtain ⟨answer, met⟩ := tells r.session.nextSeq
  rw [plan]
  refine ⟨rfl, stands.ready, .inr ⟨meets, _, rfl, ?_, met, fun _ => stands.renumber _⟩⟩
  exact List.filter_cons_of_pos (congrArg not answer)

end Owes

end Network

/-! ### What an answer tells -/

/-- What the answer to a call made on the connection `c` tells about the server's store.  An ERROR
tells nothing. -/
def Verb.Answer (c : RdowsConnection) (before after : MemoryStore) : Verb → RdowsMessage → Prop
  | .regMr accessFlags regionLen, .mrRegAck _ ack => ack.status = 0 → ∃ draws,
      (MemoryStore.register draws c.pd accessFlags regionLen).run before
        = (.ok (ack.lkey, ack.rkey), after)
  | .deregMr lkey, .mrDeregAck _ ack => ack.status = 0 →
      (MemoryStore.deregister c.pd lkey).run before = (.ok (), after)
  | .postSend _ _, .recvComp _ => after = before
  | .rdmaWrite _ rkey remoteVa sgList, .writeComp _ => ∃ data,
      c.gatherSgData sgList = .ok data ∧
        (MemoryStore.writeRegion rkey remoteVa data).run before = (.ok (), after)
  | .rdmaRead _ rkey remoteVa readLen _ _, .readResp _ payload =>
      before.readRegion rkey remoteVa readLen = .ok payload.data ∧ after = before
  | .atomicCas _ rkey remoteVa compare swap, .atomicResp _ payload =>
      (MemoryStore.atomicOp rkey remoteVa atomicTypeCas compare swap).run before
        = (.ok payload.originalValue, after)
  | .atomicFaa _ rkey remoteVa addend, .atomicResp _ payload =>
      (MemoryStore.atomicOp rkey remoteVa atomicTypeFaa addend 0).run before
        = (.ok payload.originalValue, after)
  | _, _ => True

/-- An ERROR tells nothing. -/
theorem Verb.answer_error {v : Verb} {c : RdowsConnection} {before after : MemoryStore}
    (payload : ErrorPayload) (sessionId n : UInt32) :
    v.Answer c before after ((Reply.error payload).under sessionId n).canonical := by
  cases v <;> trivial

namespace Network

/-- The reply belongs to the call and tells what was done for it.  This is the goal of the debt. -/
def Meets (call : ℕ) (v : Verb) (c : RdowsConnection) (frame : ℕ × Bytes)
    (before after : ServerRun) (reply : RdowsMessage) : Prop :=
  frame.1 = call ∧
    v.Answer c before.session.memoryStore after.session.memoryStore reply.canonical

end Network

namespace Verb.Requests

open Network RdowsConnection

variable {v : Verb} {c : RdowsConnection} {messages : List RdowsMessage}
  {finish : RdowsMessage → Local VerbValue} {t : Transport} {r : ServerRun}

/-- The requests of `post_atomic`. -/
theorem owes_atomicReq (wrid : UInt64) (rkey : RKey) (remoteVa : UInt64) (atomicType : UInt8)
    (operand1 operand2 : UInt64) (call : ℕ) (standing : Standing r.session c.nextSeq .none)
    (tells : ∀ before after header payload,
      (MemoryStore.atomicOp rkey remoteVa atomicType operand1 operand2).run before
        = (.ok payload.originalValue, after) →
      v.Answer c before after (.atomicResp header payload)) :
    (service t).Owes (Rest (c.nextSeq + 1))
      [(call, (RdowsMessage.atomicReq (c.headerFor .atomicReq wrid)
        { rkey, atomicType, remoteVa, operand1, operand2 }).encode)] (some (Meets call v c)) r := by
  refine owes_of_answersOnce (arrives_canonical rfl rfl rfl) standing rfl
    fun stands now draws => (Session.answersOnce_planAtomicReq _ _ _).imp id ?_
  rintro ⟨s, reply, plan, same, ⟨error, rfl⟩ | ⟨resp, rfl, applied⟩⟩
  · exact ⟨s, _, plan, stands.of_posture same,
      fun n => ⟨rfl, rfl, Verb.answer_error error s.sessionId n⟩⟩
  · exact ⟨s, _, plan, stands.of_posture same, fun n => ⟨rfl, rfl, tells _ _ _ resp applied⟩⟩

/-- The data of a SEND that was refused is discarded without a reply. -/
theorem owes_sendData_refused {next sessionId : UInt32} (wrid : UInt64) (data : Bytes) (call : ℕ)
    (standing : Standing r.session next .discardingSendData) :
    (service t).Owes (Rest (next + 1))
      [(call, (RdowsMessage.sendData (.new .sendData sessionId next wrid) { data }).encode)]
      none r := by
  refine owes_of_plan (arrives_canonical rfl rfl rfl) standing rfl fun stands _ _ now draws => ?_
  exact ⟨_, Session.planSendData_of_discarding stands.slot, .inr ⟨rfl, stands.ready,
    .inl ⟨rfl, fun _ => (stands.withPending .none).renumber _⟩⟩⟩

/-- The data of a SEND that was accepted is answered with a RECV_COMP. -/
theorem owes_sendData {next sessionId : UInt32} {slotWrid : UInt64} (wrid : UInt64)
    (sgList : List ScatterGatherEntry) (data : Bytes) (call : ℕ)
    (standing : Standing r.session next (.awaitingSendData slotWrid)) :
    (service t).Owes (Rest (next + 1))
      [(call, (RdowsMessage.sendData (.new .sendData sessionId next wrid) { data }).encode)]
      (some (Meets call (.postSend wrid sgList) c)) r := by
  refine owes_of_plan (arrives_canonical rfl rfl rfl) standing rfl fun stands _ _ now draws => ?_
  obtain ⟨left, rests, untouched, credits⟩ := (stands.withPending .none).planCredits
  -- The RECV_COMP is the answer; the CREDIT_UPDATE that may follow it is none.
  refine ⟨_, Session.planSendData_of_awaiting stands.slot, .inr ?_⟩
  rcases credits with plan | ⟨before, update, plan⟩ <;> rw [plan]
  · exact ⟨rfl, rests.ready, .inr ⟨_, _, rfl, rfl, ⟨rfl, untouched⟩, fun _ => rests.renumber _⟩⟩
  · exact ⟨rfl, rests.ready, .inr ⟨_, _, rfl, rfl, ⟨rfl, untouched⟩, fun _ => rests.renumber _⟩⟩

/-- The two frames of a SEND.  If no receive is posted, the first one is answered with an ERROR
and the data is discarded; otherwise the data is answered. -/
theorem owes_send (wrid : UInt64) (sgList : List ScatterGatherEntry) (data : Bytes) (call : ℕ)
    (standing : Standing r.session c.nextSeq .none) :
    (service t).Owes (Rest (c.nextSeq + 1 + 1))
      [(call, (RdowsMessage.send (c.headerFor .send wrid) { sgList }).encode),
        (call, (RdowsMessage.sendData (c.bump.headerFor .sendData wrid) { data }).encode)]
      (some (Meets call (.postSend wrid sgList) c)) r := by
  have arrives : Arrives (.send (c.headerFor .send wrid) { sgList }) _ :=
    ⟨fun _ => RdowsMessage.decode_encode_send rfl rfl, rfl, rfl⟩
  refine owes_of_plan arrives standing rfl fun stands _ _ now draws => ?_
  by_cases empty : r.session.recvQueueDepth = 0
  · refine ⟨_, if_pos empty, .inr ⟨rfl, stands.ready, .inr ⟨_, _, rfl, rfl, ⟨rfl, trivial⟩, ?_⟩⟩⟩
    exact owes_sendData_refused wrid data call ((stands.withPending .discardingSendData).renumber _)
  · refine ⟨_, if_neg empty, .inr ⟨rfl, stands.ready, .inl ⟨rfl, ?_⟩⟩⟩
    exact owes_sendData wrid sgList data call
      ⟨stands.ready, stands.expects, rfl, stands.reads, stands.credits⟩

/-- The data of a WRITE that was accepted is written where the slot says, and answered. -/
theorem owes_writeData {next sessionId : UInt32} {slotWrid len : UInt64} (wrid : UInt64)
    (rkey : RKey) (remoteVa : UInt64) (sgList : List ScatterGatherEntry) (data : Bytes)
    (gathered : c.gatherSgData sgList = .ok data) (call : ℕ)
    (standing : Standing r.session next (.awaitingWriteData slotWrid rkey remoteVa len)) :
    (service t).Owes (Rest (next + 1))
      [(call, (RdowsMessage.writeData (.new .writeData sessionId next wrid) { data }).encode)]
      (some (Meets call (.rdmaWrite wrid rkey remoteVa sgList) c)) r := by
  refine owes_of_answersOnce (arrives_canonical rfl rfl rfl) standing rfl
    fun stands now draws => (Session.answersOnce_planWriteData _ stands.slot).imp id ?_
  rintro ⟨s, reply, plan, same, ⟨error, rfl⟩ | ⟨rfl, written⟩⟩
  · exact ⟨s, _, plan, (stands.withPending .none).of_posture same,
      fun n => ⟨rfl, rfl, Verb.answer_error error s.sessionId n⟩⟩
  · exact ⟨s, _, plan, (stands.withPending .none).of_posture same,
      fun n => ⟨rfl, rfl, data, gathered, written⟩⟩

/-- The two frames of a WRITE.  The first one is allowed, so that it is accepted. -/
theorem owes_write (wrid : UInt64) (rkey : RKey) (remoteVa : UInt64)
    (sgList : List ScatterGatherEntry) (data : Bytes) (gathered : c.gatherSgData sgList = .ok data)
    (call : ℕ) (standing : Standing r.session c.nextSeq .none) :
    (service t).Owes (Rest (c.nextSeq + 1 + 1))
      [(call, (RdowsMessage.write (c.headerFor .write wrid)
          { rkey, remoteVa, length := UInt64.ofNat data.length, sgList }).encode),
        (call, (RdowsMessage.writeData (c.bump.headerFor .writeData wrid) { data }).encode)]
      (some (Meets call (.rdmaWrite wrid rkey remoteVa sgList) c)) r := by
  have arrives : Arrives (.write (c.headerFor .write wrid)
      { rkey, remoteVa, length := UInt64.ofNat data.length, sgList }) _ :=
    arrives_canonical rfl rfl rfl
  refine owes_of_plan arrives standing rfl fun stands allowed decoded now draws => ?_
  obtain ⟨entry, accepted⟩ := accepted_of_allowed allowed decoded
  refine ⟨_, Session.planWrite_of_ok _ accepted, .inr ⟨rfl, stands.ready, .inl ⟨rfl, ?_⟩⟩⟩
  exact owes_writeData wrid rkey remoteVa sgList data gathered call
    ((stands.withPending _).renumber _)

/-- The READ_REQ of `rdma_read`. -/
theorem owes_readReq (wrid : UInt64) (rkey : RKey) (remoteVa readLen : UInt64) (localLkey : LKey)
    (localVa : UInt64) (call : ℕ) (standing : Standing r.session c.nextSeq .none) :
    (service t).Owes (Rest (c.nextSeq + 1))
      [(call, (RdowsMessage.readReq (c.headerFor .readReq wrid)
        { rkey, remoteVa, readLen, localLkey, localVa }).encode)]
      (some (Meets call (.rdmaRead wrid rkey remoteVa readLen localLkey localVa) c)) r := by
  have arrives : Arrives (.readReq (c.headerFor .readReq wrid)
      { rkey, remoteVa, readLen, localLkey, localVa }) _ := arrives_canonical rfl rfl rfl
  refine owes_of_answersOnce arrives standing rfl
    fun stands now draws => (Session.answersOnce_planReadReq _ _ _).imp id ?_
  rintro ⟨s, reply, plan, rfl, ⟨error, rfl⟩ | ⟨data, rfl, read⟩⟩
  · exact ⟨_, _, plan, stands, fun n => ⟨rfl, rfl, Verb.answer_error error _ n⟩⟩
  · exact ⟨_, _, plan, stands, fun n => ⟨rfl, rfl, read, rfl⟩⟩

/-- **One answer for every request.**  A session that stands ready owes exactly one answer for
the frames of a call, one that belongs to the call and tells what was done for it; after them it
stands ready for the next request. -/
theorem owes (requests : v.Requests c messages finish) {next : UInt32}
    (numbered : Numbered c.nextSeq messages next) (call : ℕ)
    (standing : Standing r.session c.nextSeq .none) :
    (service t).Owes (Rest next) (messages.map fun m => (call, m.encode)) (some (Meets call v c))
      r := by
  -- requests of one frame are answered once; SEND and WRITE wait for their second frame
  cases requests with
  | regMr accessFlags regionLen =>
      obtain ⟨-, rfl⟩ := numbered
      refine owes_of_answersOnce (arrives_canonical rfl rfl rfl) standing rfl
        fun stands now draws => (Session.answersOnce_planMrReg _ _ _ _ _).imp id ?_
      rintro ⟨s, reply, plan, same, ack, rfl, registered⟩
      exact ⟨s, _, plan, stands.of_posture same,
        fun n => ⟨rfl, rfl, fun zero => ⟨draws, registered zero⟩⟩⟩
  | deregMr lkey =>
      obtain ⟨-, rfl⟩ := numbered
      refine owes_of_answersOnce (arrives_canonical rfl rfl rfl) standing rfl
        fun stands now draws => (Session.answersOnce_planMrDereg _ _ _).imp id ?_
      rintro ⟨s, reply, plan, same, ack, rfl, deregistered⟩
      exact ⟨s, _, plan, stands.of_posture same, fun n => ⟨rfl, rfl, deregistered⟩⟩
  | postSend wrid sgList data gathered =>
      obtain ⟨-, -, rfl⟩ := numbered
      exact owes_send wrid sgList data call standing
  | rdmaWrite wrid rkey remoteVa sgList data gathered =>
      obtain ⟨-, -, rfl⟩ := numbered
      exact owes_write wrid rkey remoteVa sgList data gathered call standing
  | rdmaRead wrid rkey remoteVa readLen localLkey localVa =>
      obtain ⟨-, rfl⟩ := numbered
      exact owes_readReq wrid rkey remoteVa readLen localLkey localVa call standing
  | atomicCas wrid rkey remoteVa compare swap =>
      obtain ⟨-, rfl⟩ := numbered
      exact owes_atomicReq _ _ _ _ _ _ call standing fun _ _ _ _ applied => applied
  | atomicFaa wrid rkey remoteVa addend =>
      obtain ⟨-, rfl⟩ := numbered
      exact owes_atomicReq _ _ _ _ _ _ call standing fun _ _ _ _ applied => applied

/-- **What a call reports is what its answer tells**: a call that returns successfully was answered
by a message that says so. -/
theorem applied (requests : v.Requests c messages finish) {before after : MemoryStore}
    {m : RdowsMessage} (answer : v.Answer c before after m) {d d' : RdowsConnection}
    {value : VerbValue} (run : (finish m).run d = (.ok value, d')) :
    v.Applied c d' before after value := by
  -- a call returns a value only for the answer of its own kind, and that answer says what was done
  cases requests with
  | regMr accessFlags regionLen =>
      obtain ⟨handle, ended, rfl⟩ := Method.run_mapValue_eq_ok.mp run
      obtain ⟨header, ack, rfl, status, keys⟩ := onMrRegAck_eq_ok ended
      obtain ⟨draws, registered⟩ := answer status
      rw [keys] at registered
      exact .regMr _ _ draws handle registered
  | deregMr lkey =>
      obtain ⟨_, ended, rfl⟩ := Method.run_mapValue_eq_ok.mp run
      obtain ⟨header, ack, rfl, status⟩ := onMrDeregAck_eq_ok ended
      exact .deregMr _ (answer status)
  | postSend wrid sgList data gathered =>
      obtain ⟨_, ended, rfl⟩ := Method.run_mapValue_eq_ok.mp run
      obtain ⟨header, rfl⟩ := onRecvComp_eq_ok ended
      exact .postSend _ _ answer
  | rdmaWrite wrid rkey remoteVa sgList data gathered =>
      obtain ⟨_, ended, rfl⟩ := Method.run_mapValue_eq_ok.mp run
      obtain ⟨header, rfl⟩ := onWriteComp_eq_ok ended
      obtain ⟨data, gathered, written⟩ := answer
      exact .rdmaWrite _ _ _ _ data gathered written
  | rdmaRead wrid rkey remoteVa readLen localLkey localVa =>
      obtain ⟨_, ended, rfl⟩ := Method.run_mapValue_eq_ok.mp run
      obtain ⟨header, payload, rfl, copied⟩ := onReadResp_eq_ok ended
      exact .rdmaRead _ _ _ _ _ _ payload.data answer.1 answer.2 copied
  | atomicCas wrid rkey remoteVa compare swap =>
      obtain ⟨original, ended, rfl⟩ := Method.run_mapValue_eq_ok.mp run
      obtain ⟨header, payload, rfl, rfl⟩ := onAtomicResp_eq_ok ended
      exact .atomicCas _ _ _ _ _ _ answer
  | atomicFaa wrid rkey remoteVa addend =>
      obtain ⟨original, ended, rfl⟩ := Method.run_mapValue_eq_ok.mp run
      obtain ⟨header, payload, rfl, rfl⟩ := onAtomicResp_eq_ok ended
      exact .atomicFaa _ _ _ _ _ answer

end Verb.Requests

end Rdows
