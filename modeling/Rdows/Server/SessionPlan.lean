import Rdows.Lib.Script
import Rdows.Server.Session

/-!
# The handlers in closed form

The handlers interleave tests, updates of the session, calls of the store and sends.  Here each of
them is written as the `Script` it plays: a function of the session, the clock, the random draws and
the message, in which only the sends are left to the outside.

## Playing a plan

`Handler.handleMessage_run` says that `handle_message` plays exactly `Session.plan`, over every
transport.  This is the only place where the handlers are taken apart.  Everything later that speaks
about sessions (the sequence numbers, the two halves of SEND and WRITE, the counters, the access
rights, the noninterference of two sessions) is read off the plans and the rules of `Lib.Script`, so
that a change of a handler is a change of its plan and of one lemma `plays_*`.

A plan does not look at the next sequence number: the numbers enter when it is played.  So two
sessions that differ in their next number only have the same plan, and their replies differ only in
their numbers, which is what the side-by-side arguments of `Server.Replay` and
`Server.Noninterference` rest on.

## What the plans leave out

Where a handler counts with a check that its own test makes sure of (an outstanding read is counted
only below the maximum, and taken back right after), the plan has the plain sum; the `plays_*` lemma
shows that the check passes.  Where that depends on more than the handler (the count of SENDs since
the last update, which only `Server.Bookkeeping` bounds), the plan crashes as the handler does.

## Messages that are dispatched and others

A message reaches `dispatch` only after the checks of `handle_message`.  `plan_of_reaches` is the
plan of one that does; `Undispatched` lists the plans of all others.
-/

namespace Rdows

open Rust

/-! ### Running the primitives -/

namespace Handler

/-- An update of the session always returns. -/
@[simp] theorem run_modifySession (f : Session → Session) (c : ServerCtx) :
    (modifySession f).run c = (.ok (), { c with session := f c.session }) := rfl

/-- A call of the store hands an error over and passes a panic on. -/
theorem run_callStore {α : Type} (x : Method MemoryStore ErrorCode α) (c : ServerCtx) :
    (callStore x).run c =
      match x.run c.session.memoryStore with
      | (.ok a, store) => (.ok (.ok a), c.withStore store)
      | (.err code, store) => (.ok (.error code), c.withStore store)
      | (.panic p, store) => (.panic p, c.withStore store) := by
  unfold callStore Method.run Method.onPart
  rcases x c.session.memoryStore with ⟨a | e | p, store⟩ <;> rfl

/-- The header the session would use next, as `next_header` builds it. -/
def headerFor (s : Session) (opcode : Opcode) (wrid : UInt64) : RdowsHeader :=
  RdowsHeader.new opcode s.sessionId s.nextSeq wrid

/-- The session with its next sequence number taken. -/
def bump (s : Session) : Session := { s with nextSeq := s.nextSeq + 1 }

/-- A reply is sent, or the WebSocket refuses it; its header is taken in both cases. -/
theorem run_respond (env : Env) (opcode : Opcode) (wrid : UInt64)
    (message : RdowsHeader → RdowsMessage) (c : ServerCtx) :
    (respond env opcode wrid message).run c =
      match env.transport c.sent.length with
      | none => (.ok (), ⟨bump c.session, c.sent ++ [message (headerFor c.session opcode wrid)]⟩)
      | some reason => (.err (.webSocket reason), ⟨bump c.session, c.sent⟩) := by
  show (sendMessage env _).run ⟨bump c.session, c.sent⟩ = _
  rw [sendMessage, Method.run_bind_of_ok (Method.run_get _)]
  rcases env.transport c.sent.length with _ | reason <;> rfl

end Handler

/-! ### Replies -/

/-- What a server can reply, without the session and the number of the header: those are filled in
when the reply is sent. -/
inductive Reply where
  | connectAck (payload : ConnectPayload)
  | mrRegAck (wrid : UInt64) (payload : MrRegAckPayload)
  | mrDeregAck (wrid : UInt64) (payload : MrDeregAckPayload)
  | recvComp (wrid : UInt64)
  | creditUpdate (payload : CreditUpdatePayload)
  | writeComp (wrid : UInt64)
  | readResp (wrid : UInt64) (payload : ReadRespPayload)
  | atomicResp (wrid : UInt64) (payload : AtomicRespPayload)
  | error (payload : ErrorPayload)
  deriving DecidableEq, Repr

namespace Reply

/-- The opcode under which the reply is sent. -/
def opcode : Reply → Opcode
  | connectAck _ => .connectAck
  | mrRegAck _ _ => .mrRegAck
  | mrDeregAck _ _ => .mrDeregAck
  | recvComp _ => .recvComp
  | creditUpdate _ => .creditUpdate
  | writeComp _ => .writeComp
  | readResp _ _ => .readResp
  | atomicResp _ _ => .atomicResp
  | error _ => .error

/-- The work request the reply belongs to; 0 where the server names none. -/
def wrid : Reply → UInt64
  | connectAck _ => 0
  | mrRegAck wrid _ => wrid
  | mrDeregAck wrid _ => wrid
  | recvComp wrid => wrid
  | creditUpdate _ => 0
  | writeComp wrid => wrid
  | readResp wrid _ => wrid
  | atomicResp wrid _ => wrid
  | error _ => 0

/-- The reply under a header. -/
def message : Reply → RdowsHeader → RdowsMessage
  | connectAck payload, header => .connectAck header payload
  | mrRegAck _ payload, header => .mrRegAck header payload
  | mrDeregAck _ payload, header => .mrDeregAck header payload
  | recvComp _, header => .recvComp header
  | creditUpdate payload, header => .creditUpdate header payload
  | writeComp _, header => .writeComp header
  | readResp _ payload, header => .readResp header payload
  | atomicResp _ payload, header => .atomicResp header payload
  | error payload, header => .error header payload

/-- The message that the reply becomes in a session, under a sequence number. -/
def under (r : Reply) (sessionId seq : UInt32) : RdowsMessage :=
  r.message (.new r.opcode sessionId seq r.wrid)

/-- A reply is sent under the header it is given. -/
theorem header_message (r : Reply) (h : RdowsHeader) : (r.message h).header = h := by
  cases r <;> rfl

@[simp] theorem header_under (r : Reply) (sessionId seq : UInt32) :
    (r.under sessionId seq).header = .new r.opcode sessionId seq r.wrid :=
  r.header_message _

end Reply

/-- What is left of a handler once its decisions are taken: replies, and the session that each of
them, sent or refused, leaves behind. -/
abbrev Plan := Script Session RdowsError Reply

/-- The session with another next sequence number, all else being the same. -/
def Session.renumber (s : Session) (n : UInt32) : Session := { s with nextSeq := n }

/-- How a session numbers its replies: with its own identifier and its next number, which every
reply uses up. -/
def numbering : Numbering Session Reply RdowsMessage where
  renumber := Session.renumber
  stamp s n r := r.under s.sessionId n

/-- Which sends fail, and with what error. -/
def Env.refuses (env : Env) (i : ℕ) : Option RdowsError := (env.transport i).map .webSocket

/-- Play a plan: the outcome of the handler and the context it leaves, from a next number and what
was sent before. -/
def Plan.play (env : Env) (p : Plan) (n : UInt32) (sent : List RdowsMessage) :
    Outcome RdowsError Unit × ServerCtx :=
  let out := p.run numbering env.refuses n sent
  (out.1, ⟨out.2.1, out.2.2⟩)

/-! ### The plans -/

namespace Session

/-- An ERROR, and nothing else. -/
def complain (s : Session) (errorCode : ErrorCode) (failingSeq : UInt32) (description : String) :
    Plan :=
  .answer s (.error { errorCode, failingSeq, description })

/-- Call the store and go on with what it returned.  A panic of the store is one of the handler. -/
def calling {α : Type} (s : Session) (x : Method MemoryStore ErrorCode α)
    (next : Except ErrorCode α → Session → Plan) : Plan :=
  match x.run s.memoryStore with
  | (.ok a, store) => next (.ok a) { s with memoryStore := store }
  | (.err code, store) => next (.error code) { s with memoryStore := store }
  | (.panic p, store) => .crash p { s with memoryStore := store }

/-- A call of which the outcome is known. -/
theorem calling_eq {α : Type} {s : Session} {x : Method MemoryStore ErrorCode α}
    {next : Except ErrorCode α → Session → Plan} (result : Except ErrorCode α) {store : MemoryStore}
    (called : x.run s.memoryStore = (.ofExcept result, store)) :
    s.calling x next = next result { s with memoryStore := store } := by
  rw [calling, called]
  cases result <;> rfl

/-- The session once the window of the rate limit is up to date: the old one, or a new window that
begins now. -/
def refreshed (s : Session) (now : ℕ) : Session :=
  if Handler.mrRegWindow ≤ now - s.mrRegWindowStart then
    { s with mrRegCount := 0, mrRegWindowStart := now }
  else s

/-- The acknowledgement of a registration: the keys, or no keys and the error as the status. -/
def regAck (pd : ProtectionDomain) : Except ErrorCode (LKey × RKey) → MrRegAckPayload
  | .ok (lkey, rkey) => { pd, lkey, rkey, status := 0 }
  | .error code => { pd, lkey := ⟨0⟩, rkey := ⟨0⟩, status := code.toU16 }

/-- The acknowledgement of a deregistration: the error, or 0, as the status. -/
def deregAck : Except ErrorCode Unit → MrDeregAckPayload
  | .ok _ => { status := 0 }
  | .error code => { status := code.toU16 }

/-- The plan of `handle_mr_reg`. -/
def planMrReg (s : Session) (now : ℕ) (draws : ℕ → UInt32) (wrid : UInt64)
    (payload : MrRegPayload) : Plan :=
  let fresh := s.refreshed now
  if fresh.mrRegRateLimit ≤ fresh.mrRegCount then
    .answer fresh (.mrRegAck wrid (regAck payload.pd (.error .errInternal)))
  else
    -- The count is below its limit here, so adding one cannot overflow.
    calling { fresh with mrRegCount := fresh.mrRegCount + 1 }
      (MemoryStore.register draws payload.pd payload.accessFlags payload.regionLen)
      fun result s => .answer s (.mrRegAck wrid (regAck payload.pd result))

/-- The plan of `handle_mr_dereg`. -/
def planMrDereg (s : Session) (wrid : UInt64) (payload : MrDeregPayload) : Plan :=
  s.calling (MemoryStore.deregister payload.pd payload.lkey)
    fun result s => .answer s (.mrDeregAck wrid (deregAck result))

/-- The plan of `handle_send`.  After a refused send of the ERROR the slot is as it was: it is set
only behind the reply. -/
def planSend (s : Session) (header : RdowsHeader) : Plan :=
  if s.recvQueueDepth = 0 then
    .reply s (.error { errorCode := .errRnr, failingSeq := header.sequence
                       description := "receiver not ready" })
      (.done { s with pendingOp := .discardingSendData })
  else
    .done { s with
      recvQueueDepth := s.recvQueueDepth - 1
      pendingOp := .awaitingSendData header.wrid }

/-- The end of the plan of `handle_send_data`: the SEND is counted, and a CREDIT_UPDATE is sent when
enough of them have been. -/
def planCredits (s : Session) : Plan :=
  match checkedAdd32 s.sendsSinceLastCredit 1 with
  | none => .crash .arithmeticOverflow s
  | some sends =>
      if s.icc / 4 ≤ sends then
        .reply { s with sendsSinceLastCredit := sends }
          (.creditUpdate { creditIncrement := sends })
          (.done { s with sendsSinceLastCredit := 0 })
      else .done { s with sendsSinceLastCredit := sends }

/-- The plan of `handle_send_data`, by what was in the slot. -/
def planSendData (s : Session) : Plan :=
  let cleared := { s with pendingOp := .none }
  match s.pendingOp with
  | .awaitingSendData wrid => .reply cleared (.recvComp wrid) cleared.planCredits
  | .discardingSendData => .done cleared
  | .none | .awaitingWriteData .. =>
      cleared.complain .errUnknownOpcode 0 "unexpected SEND_DATA without preceding SEND"

/-- The data of a SEND that was accepted. -/
theorem planSendData_of_awaiting {s : Session} {wrid : UInt64}
    (awaiting : s.pendingOp = .awaitingSendData wrid) :
    s.planSendData = .reply { s with pendingOp := .none } (.recvComp wrid)
      (planCredits { s with pendingOp := .none }) := by
  rw [planSendData, awaiting]

/-- The data of a SEND that was refused. -/
theorem planSendData_of_discarding {s : Session} (discarding : s.pendingOp = .discardingSendData) :
    s.planSendData = .done { s with pendingOp := .none } := by
  rw [planSendData, discarding]

/-- The plan of `handle_write`: an ERROR, or the WRITE is put into the slot without a reply. -/
def planWrite (s : Session) (header : RdowsHeader) (payload : WritePayload) : Plan :=
  match s.memoryStore.validateRkey payload.rkey .remoteWrite with
  | .err code => s.complain code header.sequence ""
  | .panic p => .crash p s
  | .ok _ => .done { s with
      pendingOp := .awaitingWriteData header.wrid payload.rkey payload.remoteVa payload.length }

/-- A WRITE whose R_Key is valid. -/
theorem planWrite_of_ok {s : Session} (header : RdowsHeader) {payload : WritePayload}
    {entry : MemoryRegionEntry}
    (valid : s.memoryStore.validateRkey payload.rkey .remoteWrite = .ok entry) :
    s.planWrite header payload = .done { s with
      pendingOp :=
        .awaitingWriteData header.wrid payload.rkey payload.remoteVa payload.length } := by
  rw [planWrite, valid]

/-- The plan of `handle_write_data`, by what was in the slot. -/
def planWriteData (s : Session) (payload : DataPayload) : Plan :=
  let cleared := { s with pendingOp := .none }
  match s.pendingOp with
  | .awaitingWriteData wrid rkey remoteVa _ =>
      cleared.calling (MemoryStore.writeRegion rkey remoteVa payload.data) fun result s =>
        match result with
        | .error code => s.complain code 0 ""
        | .ok _ => .answer s (.writeComp wrid)
  | .none | .awaitingSendData _ | .discardingSendData =>
      cleared.complain .errUnknownOpcode 0 "unexpected WRITE_DATA without preceding WRITE"

/-- The plan of `handle_read_req`.  The outstanding read is counted and taken back before the
handler ends, unless it panics in between. -/
def planReadReq (s : Session) (header : RdowsHeader) (payload : ReadReqPayload) : Plan :=
  if s.maxOutstandingReads ≤ s.outstandingReads then
    s.complain .errRnr header.sequence "too many outstanding reads"
  else
    match s.memoryStore.readRegion payload.rkey payload.remoteVa payload.readLen with
    | .err code => s.complain code header.sequence ""
    | .panic p => .crash p { s with outstandingReads := s.outstandingReads + 1 }
    | .ok data => .answer s (.readResp header.wrid { fragmentOffset := 0, data })

/-- The plan of `handle_atomic_req`. -/
def planAtomicReq (s : Session) (header : RdowsHeader) (payload : AtomicReqPayload) : Plan :=
  if payload.atomicType ≠ atomicTypeCas ∧ payload.atomicType ≠ atomicTypeFaa then
    s.complain .errUnknownOpcode header.sequence "invalid atomic type"
  else
    s.calling (MemoryStore.atomicOp payload.rkey payload.remoteVa payload.atomicType
        payload.operand1 payload.operand2) fun result s =>
      match result with
      | .ok original =>
          .answer s (.atomicResp header.wrid { originalValue := original, status := 0 })
      | .error code => s.complain code header.sequence ""

/-- The plan of `handler::dispatch`. -/
def planDispatch (s : Session) (now : ℕ) (draws : ℕ → UInt32) (msg : RdowsMessage) : Plan :=
  match msg with
  | .mrReg header payload => s.planMrReg now draws header.wrid payload
  | .mrDereg header payload => s.planMrDereg header.wrid payload
  | .send header _ => s.planSend header
  | .sendData _ _ => s.planSendData
  | .write header payload => s.planWrite header payload
  | .writeData _ payload => s.planWriteData payload
  | .readReq header payload => s.planReadReq header payload
  | .atomicReq header payload => s.planAtomicReq header payload
  | .ack _ => .done s
  | _ => s.complain .errUnknownOpcode msg.header.sequence "unsupported opcode"

/-- The plan of `handle_connect`. -/
def planConnect (s : Session) (msg : RdowsMessage) : Plan :=
  match msg with
  | .connect header payload =>
      if header.version ≠ rdowsVersion then
        .reply s (.error { errorCode := .errProtoVersion, failingSeq := header.sequence
                           description := "unsupported protocol version" })
          (.done { s with state := .closed })
      else
        let agreed := { s with
          sessionId := header.sessionId
          pd := payload.pd
          maxMsgSize := min payload.maxMsgSize defaultMaxMsgSize }
        .reply agreed
          (.connectAck { pd := agreed.pd, capabilityFlags := 0, maxMsgSize := agreed.maxMsgSize
                         icc := defaultIcc })
          (.done { agreed with
            expectedRemoteSeq := some (header.sequence + 1)
            state := .ready })
  | other => .fail (.unexpectedMessage "CONNECT" other.header.opcode) s

/-- The plan of `handle_ready`. -/
def planReady (s : Session) (now : ℕ) (draws : ℕ → UInt32) (msg : RdowsMessage) : Plan :=
  match msg with
  | .disconnect _ => .done { s with state := .closed }
  | .creditUpdate _ _ => .done s
  | msg => s.planDispatch now draws msg

theorem planReady_eq_planDispatch {s : Session} {now : ℕ} {draws : ℕ → UInt32}
    {msg : RdowsMessage} (h : isControl msg = false) :
    s.planReady now draws msg = s.planDispatch now draws msg := by
  cases msg with
  | disconnect header => cases h
  | creditUpdate header payload => cases h
  | _ => rfl

/-- The session that expects the number after `msg`'s. -/
def accepting (s : Session) (msg : RdowsMessage) : Session :=
  { s with expectedRemoteSeq := some (msg.header.sequence + 1) }

/-- The plan of `handle_message` once the session is Ready and the size is checked: an ERROR for a
gap, or the message is accepted with its number. -/
def planNumbered (s : Session) (now : ℕ) (draws : ℕ → UInt32) (msg : RdowsMessage) : Plan :=
  match s.expectedRemoteSeq with
  | some expected =>
      if msg.header.sequence ≠ expected then
        s.complain .errSeqGap msg.header.sequence
          s!"expected seq {expected}, got {msg.header.sequence}"
      else (s.accepting msg).planReady now draws msg
  | none => (s.accepting msg).planReady now draws msg

/-- The plan of `handle_message`, with the checks in the order in which it makes them. -/
def plan (s : Session) (now : ℕ) (draws : ℕ → UInt32) (msg : RdowsMessage) : Plan :=
  if s.state = .ready ∧ s.maxMsgSize < msg.header.payloadLength then
    s.complain .errPayloadSize msg.header.sequence
      "payload exceeds negotiated maximum message size"
  else
    match s.state with
    | .awaitingConnect => s.planConnect msg
    | .closed => .done s
    | .ready => s.planNumbered now draws msg

/-! ### Messages that are dispatched and others -/

variable {s : Session}

/-- The plan of a message of the right size and number in a Ready session. -/
theorem plan_of_ready {msg : RdowsMessage} (ready : s.state = .ready)
    (size : ¬ s.maxMsgSize < msg.header.payloadLength)
    (inOrder : ∀ expected, s.expectedRemoteSeq = some expected → msg.header.sequence = expected)
    (now : ℕ) (draws : ℕ → UInt32) :
    s.plan now draws msg = (s.accepting msg).planReady now draws msg := by
  rw [plan, if_neg fun large => size large.2, ready, planNumbered]
  rcases expects : s.expectedRemoteSeq with _ | expected
  · rfl
  · exact if_neg (not_not.mpr (inOrder expected expects))

/-- The plan of a message that passes all checks. -/
theorem plan_of_reaches {msg : RdowsMessage} (reaches : s.ReachesDispatch msg) (now : ℕ)
    (draws : ℕ → UInt32) :
    s.plan now draws msg = (s.accepting msg).planDispatch now draws msg := by
  obtain ⟨ready, size, inOrder, control⟩ := reaches
  rw [plan_of_ready ready size inOrder, planReady_eq_planDispatch control]

/-- The plan of a message to a session that waits for CONNECT. -/
theorem plan_of_awaiting {msg : RdowsMessage} (awaiting : s.state = .awaitingConnect) (now : ℕ)
    (draws : ℕ → UInt32) : s.plan now draws msg = s.planConnect msg := by
  have notReady : s.state ≠ .ready := by
    rw [awaiting]
    decide
  rw [plan, if_neg fun both => notReady both.1, awaiting]

/-- The plans of the messages that are not dispatched: those to a session that is not Ready, those
of the wrong size or number, and those that `handle_ready` deals with itself. -/
inductive Undispatched (s : Session) : RdowsMessage → Plan → Prop
  | connects (msg : RdowsMessage) (awaiting : s.state = .awaitingConnect) :
      Undispatched s msg (s.planConnect msg)
  | closed (msg : RdowsMessage) : Undispatched s msg (.done s)
  | oversize (msg : RdowsMessage) :
      Undispatched s msg (s.complain .errPayloadSize msg.header.sequence
        "payload exceeds negotiated maximum message size")
  | gap (msg : RdowsMessage) (expected : UInt32) :
      Undispatched s msg (s.complain .errSeqGap msg.header.sequence
        s!"expected seq {expected}, got {msg.header.sequence}")
  | disconnect (header : RdowsHeader) :
      Undispatched s (.disconnect header)
        (.done { s.accepting (.disconnect header) with state := .closed })
  | creditUpdate (header : RdowsHeader) (payload : CreditUpdatePayload) :
      Undispatched s (.creditUpdate header payload)
        (.done (s.accepting (.creditUpdate header payload)))

/-- A message that does not reach `dispatch` has one of the listed plans. -/
theorem undispatched_plan {msg : RdowsMessage} (undispatched : ¬ s.ReachesDispatch msg) (now : ℕ)
    (draws : ℕ → UInt32) : s.Undispatched msg (s.plan now draws msg) := by
  -- In a Ready session a message in order is kept from the dispatcher only if it is a control one.
  have ready (state : s.state = .ready) (size : ¬ s.maxMsgSize < msg.header.payloadLength)
      (inOrder : ∀ expected, s.expectedRemoteSeq = some expected → msg.header.sequence = expected) :
      s.Undispatched msg ((s.accepting msg).planReady now draws msg) := by
    have control : isControl msg ≠ false := fun no => undispatched ⟨state, size, inOrder, no⟩
    cases msg with
    | disconnect header => exact .disconnect header
    | creditUpdate header payload => exact .creditUpdate header payload
    | _ => exact absurd rfl control
  unfold plan
  split
  · exact .oversize msg
  · rename_i notLarge
    split
    · rename_i awaiting
      exact .connects msg awaiting
    · exact .closed msg
    · rename_i state
      have size : ¬ s.maxMsgSize < msg.header.payloadLength := fun large => notLarge ⟨state, large⟩
      unfold planNumbered
      split
      · rename_i expected expects
        split
        · exact .gap msg expected
        · rename_i inOrder
          refine ready state size fun number numbers => ?_
          rw [expects] at numbers
          cases numbers
          exact not_not.mp inOrder
      · rename_i free
        refine ready state size fun number numbers => ?_
        rw [free] at numbers
        cases numbers

end Session

/-! ### The handlers play their plans -/

namespace Handler

variable {env : Env} {c : ServerCtx}

/-- The handler plays the plan from the context `c` on: run there, it ends as the plan does when it
is played with the next number of the session behind what was sent already. -/
def Plays (env : Env) (x : Handler Unit) (c : ServerCtx) (p : Plan) : Prop :=
  x.run c = p.play env c.session.nextSeq c.sent

/-- A reply, and what comes after it. -/
theorem Plays.reply {x : Handler Unit} {k : Unit → Handler Unit} {s : Session} {next : Plan}
    (r : Reply) (replies : x = respond env r.opcode r.wrid r.message)
    (same : s.sessionId = c.session.sessionId)
    (left : s.renumber (c.session.nextSeq + 1) = bump c.session)
    (after : Plays env (k ())
      ⟨bump c.session, c.sent ++ [r.under c.session.sessionId c.session.nextSeq]⟩ next) :
    Plays env (x >>= k) c (.reply s r next) := by
  unfold Plays Plan.play Script.run
  rw [replies, Method.run_bind, run_respond, Env.refuses]
  rcases env.transport c.sent.length with _ | reason
  · refine Eq.trans after ?_
    show Plan.play _ _ _ (c.sent ++ [r.under c.session.sessionId _]) = _
    rw [← same]
    rfl
  · exact congrArg (fun s => (Outcome.err (RdowsError.webSocket reason), ServerCtx.mk s c.sent))
      left.symm

/-- A handler that replies once. -/
theorem Plays.answer {x : Handler Unit} {s : Session} (r : Reply)
    (replies : x = respond env r.opcode r.wrid r.message)
    (same : s.sessionId = c.session.sessionId)
    (left : s.renumber (c.session.nextSeq + 1) = bump c.session) :
    Plays env x c (.answer s r) := by
  unfold Plays Script.answer Plan.play Script.run
  rw [replies, run_respond, Env.refuses]
  rcases env.transport c.sent.length with _ | reason
  · refine congrArg (Prod.mk (Outcome.ok ())) ?_
    show ServerCtx.mk _ (c.sent ++ [r.under c.session.sessionId _]) = _
    rw [← same, ← left]
    rfl
  · exact congrArg (fun s => (Outcome.err (RdowsError.webSocket reason), ServerCtx.mk s c.sent))
      left.symm

/-- A handler that sends an ERROR and ends. -/
theorem Plays.complain {s : Session} (code : ErrorCode) (failingSeq : UInt32)
    (description : String) (same : s.sessionId = c.session.sessionId)
    (left : s.renumber (c.session.nextSeq + 1) = bump c.session) :
    Plays env (sendError env code failingSeq description) c
      (s.complain code failingSeq description) :=
  .answer (.error ⟨code, failingSeq, description⟩) rfl same left

/-- A call of the store, and what comes after it. -/
theorem Plays.calling {α : Type} {x : Method MemoryStore ErrorCode α}
    {k : Except ErrorCode α → Handler Unit} {next : Except ErrorCode α → Session → Plan}
    (after : ∀ result store, Plays env (k result) (c.withStore store)
      (next result { c.session with memoryStore := store })) :
    Plays env (callStore x >>= k) c (c.session.calling x next) := by
  unfold Plays Session.calling
  rw [Method.run_bind, run_callStore]
  rcases x.run c.session.memoryStore with ⟨a | code | p, store⟩
  · exact after (.ok a) store
  · exact after (.error code) store
  · rfl

/-- A number below another one can be counted up. -/
theorem checkedAdd32_of_lt {a b : UInt32} (below : ¬ b ≤ a) : checkedAdd32 a 1 = some (a + 1) := by
  refine if_pos ?_
  have := UInt32.lt_iff_toNat_lt.mp (UInt32.not_le.mp below)
  have := b.toNat_lt
  show a.toNat + 1 < _
  omega

/-- The count of registrations is below the limit when it is counted up, so the check of the sum
passes. -/
theorem plays_mrReg (env : Env) (c : ServerCtx) (wrid : UInt64) (payload : MrRegPayload) :
    Plays env (handleMrReg env wrid payload) c
      (c.session.planMrReg env.now env.draws wrid payload) := by
  have refresh : (refreshMrRegWindow env).run c
      = (.ok (), { c with session := c.session.refreshed env.now }) := by
    unfold refreshMrRegWindow Session.refreshed
    rw [Method.run_bind_of_ok (Method.run_get c), Method.run_ite]
    split <;> rfl
  have number : (c.session.refreshed env.now).nextSeq = c.session.nextSeq := by
    unfold Session.refreshed
    split <;> rfl
  unfold Plays handleMrReg Session.planMrReg
  rw [Method.run_bind_of_ok refresh, Method.run_bind_of_ok (Method.run_get _), Method.run_ite]
  dsimp only
  rw [← number]
  -- the plan continues from the session with the window up to date
  generalize c.session.refreshed env.now = s
  by_cases limited : s.mrRegRateLimit ≤ s.mrRegCount
  · rw [if_pos limited, if_pos limited]
    exact Plays.answer (c := ⟨s, c.sent⟩) (.mrRegAck wrid _) rfl rfl rfl
  · rw [if_neg limited, if_neg limited, checkedAdd32_of_lt limited, Outcome.orPanic_some,
      Method.run_bind_of_ok (Method.run_lift _ _), Method.run_bind_of_ok (run_modifySession _ _)]
    refine Plays.calling (c := ⟨{ s with mrRegCount := s.mrRegCount + 1 }, c.sent⟩) ?_
    intro result store
    rcases result with code | ⟨lkey, rkey⟩
    · exact Plays.answer (.mrRegAck wrid _) rfl rfl rfl
    · exact Plays.answer (.mrRegAck wrid _) rfl rfl rfl

theorem plays_mrDereg (env : Env) (c : ServerCtx) (wrid : UInt64) (payload : MrDeregPayload) :
    Plays env (handleMrDereg env wrid payload) c (c.session.planMrDereg wrid payload) := by
  refine Plays.calling ?_
  intro result store
  rcases result with code | _
  · exact Plays.answer (.mrDeregAck wrid _) rfl rfl rfl
  · exact Plays.answer (.mrDeregAck wrid _) rfl rfl rfl

theorem plays_send (env : Env) (c : ServerCtx) (header : RdowsHeader) :
    Plays env (handleSend env header) c (c.session.planSend header) := by
  unfold Plays handleSend Session.planSend
  rw [Method.run_bind_of_ok (Method.run_get c), Method.run_ite]
  by_cases empty : c.session.recvQueueDepth = 0
  · rw [if_pos empty, if_pos empty]
    exact Plays.reply (.error _) rfl rfl rfl rfl
  · rw [if_neg empty, if_neg empty]
    have taken : checkedSub32 c.session.recvQueueDepth 1 = some (c.session.recvQueueDepth - 1) := by
      refine if_pos ?_
      show 1 ≤ c.session.recvQueueDepth.toNat
      have := fun zero => empty (UInt32.toNat.inj zero)
      exact Nat.one_le_iff_ne_zero.mpr this
    rw [taken]
    rfl

/-- The number of the reply before it is not part of what `handle_send_data` goes on with. -/
theorem plays_credits (env : Env) (s : Session) (n : UInt32) (sent : List RdowsMessage) :
    Plays env (returnCredits env) ⟨s.renumber n, sent⟩ s.planCredits := by
  unfold Plays returnCredits Session.planCredits
  rw [Method.run_bind_of_ok (Method.run_get _)]
  show (Method.lift (.orPanic _ (checkedAdd32 s.sendsSinceLastCredit 1)) >>= _).run _ = _
  rcases checkedAdd32 s.sendsSinceLastCredit 1 with _ | sends
  · rfl
  · rw [Outcome.orPanic_some, Method.run_bind_of_ok (Method.run_lift _ _),
      Method.run_bind_of_ok (run_modifySession _ _), Method.run_ite]
    show (if s.icc / 4 ≤ sends then _ else _)
      = Plan.play env (if s.icc / 4 ≤ sends then _ else _) _ _
    by_cases due : s.icc / 4 ≤ sends
    · rw [if_pos due, if_pos due]
      exact Plays.reply (c := ⟨{ s.renumber n with sendsSinceLastCredit := sends }, sent⟩)
        (.creditUpdate _) rfl rfl rfl rfl
    · rw [if_neg due, if_neg due]
      rfl

theorem plays_sendData (env : Env) (c : ServerCtx) :
    Plays env (handleSendData env) c c.session.planSendData := by
  unfold Plays handleSendData Session.planSendData
  rw [Method.run_bind_of_ok (Method.run_get c), Method.run_bind_of_ok (run_modifySession _ _)]
  dsimp only
  rcases c.session.pendingOp with _ | wrid | _ | _
  · exact Plays.complain (c := ⟨{ c.session with pendingOp := .none }, c.sent⟩) _ _ _ rfl rfl
  · exact Plays.reply (c := ⟨{ c.session with pendingOp := .none }, c.sent⟩) (.recvComp wrid)
      rfl rfl rfl (plays_credits env { c.session with pendingOp := .none } _ _)
  · exact Plays.complain (c := ⟨{ c.session with pendingOp := .none }, c.sent⟩) _ _ _ rfl rfl
  · rfl

theorem plays_write (env : Env) (c : ServerCtx) (header : RdowsHeader) (payload : WritePayload) :
    Plays env (handleWrite env header payload) c (c.session.planWrite header payload) := by
  unfold Plays handleWrite Session.planWrite
  rw [Method.run_bind_of_ok (Method.run_get c)]
  rcases c.session.memoryStore.validateRkey payload.rkey .remoteWrite with _ | code | p
  · rfl
  · exact Plays.complain _ _ _ rfl rfl
  · rfl

theorem plays_writeData (env : Env) (c : ServerCtx) (payload : DataPayload) :
    Plays env (handleWriteData env payload) c (c.session.planWriteData payload) := by
  unfold Plays handleWriteData Session.planWriteData
  rw [Method.run_bind_of_ok (Method.run_get c), Method.run_bind_of_ok (run_modifySession _ _)]
  dsimp only
  rcases c.session.pendingOp with _ | _ | ⟨wrid, rkey, remoteVa, _⟩ | _
  · exact Plays.complain (c := ⟨{ c.session with pendingOp := .none }, c.sent⟩) _ _ _ rfl rfl
  · exact Plays.complain (c := ⟨{ c.session with pendingOp := .none }, c.sent⟩) _ _ _ rfl rfl
  · refine Plays.calling (c := ⟨{ c.session with pendingOp := .none }, c.sent⟩) ?_
    intro result store
    rcases result with code | _
    · exact Plays.complain _ _ _ rfl rfl
    · exact Plays.answer (.writeComp wrid) rfl rfl rfl
  · exact Plays.complain (c := ⟨{ c.session with pendingOp := .none }, c.sent⟩) _ _ _ rfl rfl

/-- Taking back the outstanding read that was just counted. -/
theorem checkedSub32_add_one {a b : UInt32} (below : ¬ b ≤ a) :
    checkedSub32 (a + 1) 1 = some a := by
  have := UInt32.lt_iff_toNat_lt.mp (UInt32.not_le.mp below)
  have := b.toNat_lt
  have sum : (a + 1).toNat = a.toNat + 1 := by
    rw [UInt32.toNat_add]
    exact Nat.mod_eq_of_lt (by show a.toNat + 1 < _; omega)
  unfold checkedSub32
  rw [if_pos (by rw [sum]; show 1 ≤ _; omega)]
  congr 1
  exact UInt32.add_sub_cancel a 1

theorem run_countRead (c : ServerCtx) {max : UInt32}
    (room : ¬ max ≤ c.session.outstandingReads) :
    (setOutstandingReads checkedAdd32).run c = (.ok (), { c with session :=
      { c.session with outstandingReads := c.session.outstandingReads + 1 } }) := by
  unfold setOutstandingReads
  rw [Method.run_bind_of_ok (Method.run_get c), checkedAdd32_of_lt room]
  rfl

/-- The read is counted up below the maximum and then taken back, so neither check fails, and the
session is afterwards what it was. -/
theorem plays_readReq (env : Env) (c : ServerCtx) (header : RdowsHeader)
    (payload : ReadReqPayload) :
    Plays env (handleReadReq env header payload) c (c.session.planReadReq header payload) := by
  unfold Plays handleReadReq Session.planReadReq
  rw [Method.run_bind_of_ok (Method.run_get c), Method.run_ite]
  by_cases full : c.session.maxOutstandingReads ≤ c.session.outstandingReads
  · rw [if_pos full, if_pos full]
    exact Plays.complain _ _ _ rfl rfl
  rw [if_neg full, if_neg full, Method.run_bind_of_ok (run_countRead c full)]
  -- the count is taken back whatever became of the send
  have uncount : ∀ d : ServerCtx, d.session.outstandingReads = c.session.outstandingReads + 1 →
      (setOutstandingReads checkedSub32).run d = (.ok (), { d with session :=
        { d.session with outstandingReads := c.session.outstandingReads } }) := by
    intro d counted
    unfold setOutstandingReads
    rw [Method.run_bind_of_ok (Method.run_get d), counted, checkedSub32_add_one full]
    rfl
  rcases c.session.memoryStore.readRegion payload.rkey payload.remoteVa payload.readLen
    with data | code | p
  · have answered := run_respond env .readResp header.wrid
      (fun header => .readResp header { fragmentOffset := 0, data })
      { c with session := { c.session with
        outstandingReads := c.session.outstandingReads + 1 } }
    unfold Plan.play Script.answer Script.run Env.refuses
    dsimp only at answered ⊢
    rcases sends : env.transport c.sent.length with _ | reason <;> rw [sends] at answered
    · rw [Method.run_bind_of_ok (Method.run_attempt_of_ok answered),
        Method.run_bind_of_ok (uncount _ rfl)]
      rfl
    · rw [Method.run_bind_of_ok (Method.run_attempt_of_err answered),
        Method.run_bind_of_ok (uncount _ rfl)]
      rfl
  · dsimp only
    rw [Method.run_bind_of_ok (uncount _ rfl)]
    exact Plays.complain _ _ _ rfl rfl
  · rfl

theorem plays_atomicReq (env : Env) (c : ServerCtx) (header : RdowsHeader)
    (payload : AtomicReqPayload) :
    Plays env (handleAtomicReq env header payload) c (c.session.planAtomicReq header payload) := by
  unfold Plays handleAtomicReq Session.planAtomicReq
  rw [Method.run_ite]
  split
  · exact Plays.complain _ _ _ rfl rfl
  · refine Plays.calling ?_
    intro result store
    rcases result with code | original
    · exact Plays.complain _ _ _ rfl rfl
    · exact Plays.answer (.atomicResp header.wrid _) rfl rfl rfl

theorem plays_dispatch (env : Env) (c : ServerCtx) (msg : RdowsMessage) :
    Plays env (dispatch env msg) c (c.session.planDispatch env.now env.draws msg) := by
  cases msg with
  | mrReg header payload => exact plays_mrReg env c header.wrid payload
  | mrDereg header payload => exact plays_mrDereg env c header.wrid payload
  | send header payload => exact plays_send env c header
  | sendData header payload => exact plays_sendData env c
  | write header payload => exact plays_write env c header payload
  | writeData header payload => exact plays_writeData env c payload
  | readReq header payload => exact plays_readReq env c header payload
  | atomicReq header payload => exact plays_atomicReq env c header payload
  | ack header => rfl
  | _ => exact Plays.complain _ _ _ rfl rfl

theorem plays_connect (env : Env) (c : ServerCtx) (msg : RdowsMessage) :
    Plays env (handleConnect env msg) c (c.session.planConnect msg) := by
  cases msg with
  | connect header payload =>
      unfold Plays handleConnect Session.planConnect
      rw [Method.run_ite]
      dsimp only
      split
      · exact Plays.reply (.error _) rfl rfl rfl rfl
      · exact Plays.reply (c := ⟨{ c.session with
            sessionId := header.sessionId
            pd := payload.pd
            maxMsgSize := min payload.maxMsgSize defaultMaxMsgSize }, c.sent⟩)
          (.connectAck _) rfl rfl rfl rfl
  | _ => rfl

theorem handleReady_eq_dispatch {msg : RdowsMessage} (h : Session.isControl msg = false) :
    handleReady env msg = dispatch env msg := by
  cases msg with
  | disconnect header => cases h
  | creditUpdate header payload => cases h
  | _ => rfl

theorem plays_ready (env : Env) (c : ServerCtx) (msg : RdowsMessage) :
    Plays env (handleReady env msg) c (c.session.planReady env.now env.draws msg) := by
  by_cases control : Session.isControl msg = false
  · rw [handleReady_eq_dispatch control, Session.planReady_eq_planDispatch control]
    exact plays_dispatch env c msg
  · cases msg with
    | disconnect header => rfl
    | creditUpdate header payload => rfl
    | _ => exact absurd rfl control

/-- **`handle_message` plays its plan**, over every transport: it ends with the same outcome, has
sent the same messages, and leaves the same session, at whichever reply the transport may fail. -/
theorem handleMessage_run (env : Env) (msg : RdowsMessage) (c : ServerCtx) :
    (handleMessage env msg).run c
      = (c.session.plan env.now env.draws msg).play env c.session.nextSeq c.sent := by
  unfold handleMessage Session.plan
  rw [Method.run_bind_of_ok (Method.run_get c), Method.run_ite]
  split
  · exact Plays.complain _ _ _ rfl rfl
  · rcases c.session.state with _ | _ | _
    · exact plays_connect env c msg
    · dsimp only
      unfold Session.planNumbered
      rcases c.session.expectedRemoteSeq with _ | expected
      · exact plays_ready env ⟨c.session.accepting msg, c.sent⟩ msg
      · dsimp only
        rw [Method.run_ite]
        split
        · exact Plays.complain _ _ _ rfl rfl
        · exact plays_ready env ⟨c.session.accepting msg, c.sent⟩ msg
    · rfl

end Handler

end Rdows
