import Rdows.Server.MemoryStore

/-!
# A server session

The state of one session, the handlers of `handler.rs` and the message loop of `session.rs`.

## Handlers

A handler is a method on the session and the messages sent while the current frame is handled.  What
the outside world decides during one frame is its `Env`: the clock, the random draws, and which
sends the WebSocket refuses.  A refused send is an error that the handlers pass on with `?`, so
every update made before it stays.  Arithmetic that Rust checks in a debug build is checked here,
and an overflow is a panic.

## Two frames for one operation

SEND and WRITE announce data that comes in a frame of its own.  What the next data frame belongs to
is the slot `pendingOp` of the session, which holds one operation at a time.  `handle_send` and
`handle_write` put their operation into the slot without looking at what is there, and the handlers
of the data empty it before they look at what was there.  Both habits have consequences that
`Server.SessionRuns` works out.

## The loop

`handle_message` checks the size of a frame, then its number, and only a frame that passes both
reaches `dispatch`; a frame that is refused does not advance the number that is expected next.
`ServerRun.step` is one turn of `run_session`: it decodes a frame, handles it, and goes on only if
that returned and the session is not closed.  Its output `Served` records the message that reached
`handler::dispatch`, if any, and the replies.
-/

namespace Rdows

open Rust

/-- `ServerConfig`, with the values of its `Default`.  The limit on the sessions of an address is
not here: it is a parameter of `Server.Admission`, and no session reads it. -/
structure ServerConfig where
  recvQueueDepth : UInt32 := 128
  maxRegionsPerSession : ℕ := 4096
  maxTotalBytesPerSession : UInt64 := 32 * 1024 * 1024 * 1024
  maxOutstandingReads : UInt32 := 128
  mrRegRateLimit : UInt32 := 1000

/-- `SessionState`.  A session is never Ready again once it is closed. -/
inductive SessionState where
  | awaitingConnect
  | ready
  | closed
  deriving DecidableEq, Repr

/-- `PendingOp`: what the next data frame belongs to.  `discardingSendData` is the state after a
SEND that was refused for want of a receive: its data is still on the way. -/
inductive PendingOp where
  | none
  | awaitingSendData (wrid : UInt64)
  | awaitingWriteData (wrid : UInt64) (rkey : RKey) (remoteVa expectedLen : UInt64)
  | discardingSendData
  deriving DecidableEq, Repr

/-- A SEND waits for its data; it has taken a posted receive. -/
def PendingOp.awaitsSendData : PendingOp → Bool
  | .awaitingSendData _ => true
  | _ => false

/-- A WRITE waits for its data; its R_Key has been validated. -/
def PendingOp.awaitsWriteData : PendingOp → Bool
  | .awaitingWriteData .. => true
  | _ => false

/-- `Session`.  Instants are nanoseconds since some origin.  `expectedRemoteSeq` is the number the
next frame must carry, once there is one. -/
structure Session where
  state : SessionState
  sessionId : UInt32
  pd : ProtectionDomain
  maxMsgSize : UInt32
  nextSeq : UInt32
  memoryStore : MemoryStore
  pendingOp : PendingOp
  recvQueueDepth : UInt32
  expectedRemoteSeq : Option UInt32
  sendsSinceLastCredit : UInt32
  icc : UInt32
  outstandingReads : UInt32
  maxOutstandingReads : UInt32
  mrRegCount : UInt32
  mrRegWindowStart : ℕ
  mrRegRateLimit : UInt32

/-- `Session::new` at time `now`: nothing is registered or pending, all receives are posted, and the
window of the rate limit begins. -/
def Session.new (config : ServerConfig) (now : ℕ) : Session where
  state := .awaitingConnect
  sessionId := 0
  pd := ⟨0⟩
  maxMsgSize := defaultMaxMsgSize
  nextSeq := 0
  memoryStore := .new config.maxRegionsPerSession config.maxTotalBytesPerSession
  pendingOp := .none
  recvQueueDepth := config.recvQueueDepth
  expectedRemoteSeq := none
  sendsSinceLastCredit := 0
  icc := defaultIcc
  outstandingReads := 0
  maxOutstandingReads := config.maxOutstandingReads
  mrRegCount := 0
  mrRegWindowStart := now
  mrRegRateLimit := config.mrRegRateLimit

/-- What the outside decides while one frame is handled: the time, the random draws of a
registration, and which of the sends fail, with the reason.  Sends are counted from the begin of the
frame. -/
structure Env where
  now : ℕ
  draws : ℕ → UInt32
  transport : ℕ → Option String

/-- The session and what was sent so far for the current frame: the receiver of the handlers. -/
structure ServerCtx where
  session : Session
  sent : List RdowsMessage

/-- The context with another memory store. -/
def ServerCtx.withStore (c : ServerCtx) (store : MemoryStore) : ServerCtx :=
  { c with session := { c.session with memoryStore := store } }

/-- A handler: it may end with an error, which ends the session, or with a panic, which ends its
task. -/
abbrev Handler (α : Type) := Method ServerCtx RdowsError α

namespace Handler

/-- Update the session and leave what was sent. -/
def modifySession (f : Session → Session) : Handler Unit :=
  Method.modify fun c => { c with session := f c.session }

/-- Call the memory store and match on the result: an error code is a value for the handler, a panic
is not. -/
def callStore {α : Type} (x : Method MemoryStore ErrorCode α) : Handler (Except ErrorCode α) :=
  x.onPart (fun c => c.session.memoryStore) (fun store c => c.withStore store)

/-- `next_header`: every call uses up a sequence number, whether or not the message is sent. -/
def nextHeader (opcode : Opcode) (wrid : UInt64) : Handler RdowsHeader := do
  let c ← Method.get
  modifySession fun s => { s with nextSeq := s.nextSeq + 1 }
  return RdowsHeader.new opcode c.session.sessionId c.session.nextSeq wrid

/-- `send_message`.  The message is sent, or the WebSocket refuses it and the handler ends here. -/
def sendMessage (env : Env) (msg : RdowsMessage) : Handler Unit := do
  let c ← Method.get
  match env.transport c.sent.length with
  | none => Method.modify fun c => { c with sent := c.sent ++ [msg] }
  | some reason => Method.throw (.webSocket reason)

/-- Take the next header and send the message built on it, as the handlers do for every reply. -/
def respond (env : Env) (opcode : Opcode) (wrid : UInt64)
    (message : RdowsHeader → RdowsMessage) : Handler Unit := do
  let header ← nextHeader opcode wrid
  sendMessage env (message header)

/-- `send_error`.  An ERROR belongs to no work request, so its WRID is 0. -/
def sendError (env : Env) (errorCode : ErrorCode) (failingSeq : UInt32) (description : String) :
    Handler Unit :=
  respond env .error 0 fun header => .error header { errorCode, failingSeq, description }

/-! ### The handlers -/

/-- The rate limit window is one second long, in nanoseconds. -/
def mrRegWindow : ℕ := 1000000000

/-- The opening of `handle_mr_reg`: start a new window when the last one is over.  `duration_since`
of an earlier instant is zero, as is the truncated subtraction. -/
def refreshMrRegWindow (env : Env) : Handler Unit := do
  let c ← Method.get
  if mrRegWindow ≤ env.now - c.session.mrRegWindowStart then
    modifySession fun s => { s with mrRegCount := 0, mrRegWindowStart := env.now }
  else return ()

/-- `handle_mr_reg`.  A request above the rate limit and one that the store refuses are both
acknowledged, with a status that is not 0 and no keys. -/
def handleMrReg (env : Env) (wrid : UInt64) (payload : MrRegPayload) : Handler Unit := do
  refreshMrRegWindow env
  let c ← Method.get
  if c.session.mrRegRateLimit ≤ c.session.mrRegCount then
    respond env .mrRegAck wrid fun header => .mrRegAck header
      { pd := payload.pd, lkey := ⟨0⟩, rkey := ⟨0⟩, status := ErrorCode.errInternal.toU16 }
  else do
    let count ← Method.lift (.orPanic .arithmeticOverflow (checkedAdd32 c.session.mrRegCount 1))
    modifySession fun s => { s with mrRegCount := count }
    match ← callStore
        (MemoryStore.register env.draws payload.pd payload.accessFlags payload.regionLen) with
    | .ok (lkey, rkey) =>
        respond env .mrRegAck wrid fun header => .mrRegAck header
          { pd := payload.pd, lkey, rkey, status := 0 }
    | .error code =>
        respond env .mrRegAck wrid fun header => .mrRegAck header
          { pd := payload.pd, lkey := ⟨0⟩, rkey := ⟨0⟩, status := code.toU16 }

/-- `handle_mr_dereg`: the status of the acknowledgement is what the store returned. -/
def handleMrDereg (env : Env) (wrid : UInt64) (payload : MrDeregPayload) : Handler Unit := do
  let status : UInt16 := match ← callStore (MemoryStore.deregister payload.pd payload.lkey) with
    | .ok _ => 0
    | .error code => code.toU16
  respond env .mrDeregAck wrid fun header => .mrDeregAck header { status }

/-- `handle_send`.  Without a posted receive the sender is told so and the data to come will be
dropped; otherwise the SEND takes one receive and waits for its data.  The scatter/gather list is
not looked at. -/
def handleSend (env : Env) (header : RdowsHeader) : Handler Unit := do
  let c ← Method.get
  if c.session.recvQueueDepth = 0 then do
    sendError env .errRnr header.sequence "receiver not ready"
    modifySession fun s => { s with pendingOp := .discardingSendData }
  else do
    let depth ← Method.lift
      (.orPanic .arithmeticOverflow (checkedSub32 c.session.recvQueueDepth 1))
    modifySession fun s => { s with
      recvQueueDepth := depth
      pendingOp := .awaitingSendData header.wrid }

/-- The end of `handle_send_data`: a CREDIT_UPDATE after every quarter of the initial credit count.
The count is reset only after the update could be sent. -/
def returnCredits (env : Env) : Handler Unit := do
  let c ← Method.get
  let sends ← Method.lift
    (.orPanic .arithmeticOverflow (checkedAdd32 c.session.sendsSinceLastCredit 1))
  modifySession fun s => { s with sendsSinceLastCredit := sends }
  if c.session.icc / 4 ≤ sends then do
    respond env .creditUpdate 0 fun header => .creditUpdate header { creditIncrement := sends }
    modifySession fun s => { s with sendsSinceLastCredit := 0 }
  else return ()

/-- `handle_send_data`.  The data itself is dropped: the server completes the receive without
storing anything. -/
def handleSendData (env : Env) : Handler Unit := do
  let c ← Method.get
  modifySession fun s => { s with pendingOp := .none }
  -- the slot is empty by now; what counts is what was in it
  match c.session.pendingOp with
  | .awaitingSendData wrid => do
      respond env .recvComp wrid .recvComp
      returnCredits env
  | .discardingSendData => return ()
  | .none | .awaitingWriteData .. =>
      sendError env .errUnknownOpcode 0 "unexpected SEND_DATA without preceding SEND"

/-- `handle_write`.  The R_Key is validated now, the range is not looked at before the data comes.
A WRITE that is refused leaves the slot as it was. -/
def handleWrite (env : Env) (header : RdowsHeader) (payload : WritePayload) : Handler Unit := do
  let c ← Method.get
  match c.session.memoryStore.validateRkey payload.rkey .remoteWrite with
  | .err code => sendError env code header.sequence ""
  | .panic p => Method.lift (.panic p)
  | .ok _ => modifySession fun s => { s with
      pendingOp := .awaitingWriteData header.wrid payload.rkey payload.remoteVa payload.length }

/-- `handle_write_data`.  The store validates the R_Key again, and the range with the length of the
data; the length that the WRITE announced is not compared. -/
def handleWriteData (env : Env) (payload : DataPayload) : Handler Unit := do
  let c ← Method.get
  modifySession fun s => { s with pendingOp := .none }
  match c.session.pendingOp with
  | .awaitingWriteData wrid rkey remoteVa _ => do
      match ← callStore (MemoryStore.writeRegion rkey remoteVa payload.data) with
      | .error code => sendError env code 0 ""
      | .ok _ => respond env .writeComp wrid .writeComp
  | .none | .awaitingSendData _ | .discardingSendData =>
      sendError env .errUnknownOpcode 0 "unexpected WRITE_DATA without preceding WRITE"

/-- Add one to or take one from the number of outstanding reads, with the check of the arithmetic
that is given. -/
def setOutstandingReads (checked : UInt32 → UInt32 → Option UInt32) : Handler Unit := do
  let c ← Method.get
  let reads ← Method.lift (.orPanic .arithmeticOverflow (checked c.session.outstandingReads 1))
  modifySession fun s => { s with outstandingReads := reads }

/-- `handle_read_req`.  The count of outstanding reads is taken back whether or not the response
could be sent, before the error of the send is passed on. -/
def handleReadReq (env : Env) (header : RdowsHeader) (payload : ReadReqPayload) :
    Handler Unit := do
  let c ← Method.get
  if c.session.maxOutstandingReads ≤ c.session.outstandingReads then
    sendError env .errRnr header.sequence "too many outstanding reads"
  else do
    setOutstandingReads checkedAdd32
    match c.session.memoryStore.readRegion payload.rkey payload.remoteVa payload.readLen with
    | .err code => do
        setOutstandingReads checkedSub32
        sendError env code header.sequence ""
    | .panic p => Method.lift (.panic p)
    | .ok data => do
        -- the source keeps the result of the send and takes the count back before `result?`
        let result ← Method.attempt (respond env .readResp header.wrid fun header =>
          .readResp header { fragmentOffset := 0, data })
        setOutstandingReads checkedSub32
        Method.lift result

/-- `handle_atomic_req`.  The type is checked here and again by the store, which checks it last. -/
def handleAtomicReq (env : Env) (header : RdowsHeader) (payload : AtomicReqPayload) :
    Handler Unit := do
  if payload.atomicType ≠ atomicTypeCas ∧ payload.atomicType ≠ atomicTypeFaa then
    sendError env .errUnknownOpcode header.sequence "invalid atomic type"
  else do
    match ← callStore (MemoryStore.atomicOp payload.rkey payload.remoteVa
        payload.atomicType payload.operand1 payload.operand2) with
    | .ok original =>
        respond env .atomicResp header.wrid fun header =>
          .atomicResp header { originalValue := original, status := 0 }
    | .error code => sendError env code header.sequence ""

/-- `handler::dispatch`.  An ACK is accepted and ignored; a message that only a server sends is
answered with an ERROR. -/
def dispatch (env : Env) (msg : RdowsMessage) : Handler Unit :=
  match msg with
  | .mrReg header payload => handleMrReg env header.wrid payload
  | .mrDereg header payload => handleMrDereg env header.wrid payload
  | .send header _ => handleSend env header
  | .sendData _ _ => handleSendData env
  | .write header payload => handleWrite env header payload
  | .writeData _ payload => handleWriteData env payload
  | .readReq header payload => handleReadReq env header payload
  | .atomicReq header payload => handleAtomicReq env header payload
  | .ack _ => return ()
  | _ => sendError env .errUnknownOpcode msg.header.sequence "unsupported opcode"

/-! ### The message loop -/

/-- `handle_connect`.  The session adopts the identifier and the domain of the client and the
smaller of the two message sizes.  It becomes Ready only after the CONNECT_ACK could be sent. -/
def handleConnect (env : Env) (msg : RdowsMessage) : Handler Unit :=
  match msg with
  | .connect header payload =>
      if header.version ≠ rdowsVersion then do
        sendError env .errProtoVersion header.sequence "unsupported protocol version"
        modifySession fun s => { s with state := .closed }
      else do
        modifySession fun s => { s with
          sessionId := header.sessionId
          pd := payload.pd
          maxMsgSize := min payload.maxMsgSize defaultMaxMsgSize }
        let c ← Method.get
        respond env .connectAck 0 fun ackHeader => .connectAck ackHeader
          { pd := c.session.pd, capabilityFlags := 0, maxMsgSize := c.session.maxMsgSize
            icc := defaultIcc }
        modifySession fun s => { s with
          expectedRemoteSeq := some (header.sequence + 1)
          state := .ready }
  | other => Method.throw (.unexpectedMessage "CONNECT" other.header.opcode)

/-- `handle_ready`: the messages that concern the session itself, and the rest for the handlers. -/
def handleReady (env : Env) (msg : RdowsMessage) : Handler Unit :=
  match msg with
  | .disconnect _ => modifySession fun s => { s with state := .closed }
  | .creditUpdate _ _ => return ()
  | msg => dispatch env msg

/-- `handle_message`.  The size is checked before the number, so that a frame that is too large
leaves the expected number as it is. -/
def handleMessage (env : Env) (msg : RdowsMessage) : Handler Unit := do
  let c ← Method.get
  if c.session.state = .ready ∧ c.session.maxMsgSize < msg.header.payloadLength then
    sendError env .errPayloadSize msg.header.sequence
      "payload exceeds negotiated maximum message size"
  else
    match c.session.state with
    | .awaitingConnect => handleConnect env msg
    | .closed => return ()
    | .ready => do
        let actual := msg.header.sequence
        match c.session.expectedRemoteSeq with
        | some expected =>
            if actual ≠ expected then
              sendError env .errSeqGap actual s!"expected seq {expected}, got {actual}"
            else do
              modifySession fun s => { s with expectedRemoteSeq := some (actual + 1) }
              handleReady env msg
        | none => do
            modifySession fun s => { s with expectedRemoteSeq := some (actual + 1) }
            handleReady env msg

end Handler

/-- What a WebSocket stream yields: a binary frame, the end of the connection, a message of another
kind, which the loop skips, or an error of the stream. -/
inductive WsMessage where
  | binary (data : Bytes)
  | close
  | other
  | error

/-- A session inside `run_session`; the loop has ended when `running` is false, and the session is
then never touched again. -/
structure ServerRun where
  session : Session
  running : Bool

/-- What one turn of the loop did: the message that reached `handler::dispatch`, if any,
and the replies. -/
structure Served where
  dispatched : Option RdowsMessage
  replies : List RdowsMessage

namespace Session

/-- `handle_ready` deals with the message itself, and the handlers do not see it. -/
def isControl : RdowsMessage → Bool
  | .disconnect _ | .creditUpdate _ _ => true
  | _ => false

/-- The checks of `handle_message` and `handle_ready` let the message through to
`handler::dispatch`: the session is Ready, and the message has an admissible size, the expected
number and is none that concerns the session itself. -/
def ReachesDispatch (s : Session) (msg : RdowsMessage) : Prop :=
  s.state = .ready ∧ ¬ s.maxMsgSize < msg.header.payloadLength ∧
    (∀ expected, s.expectedRemoteSeq = some expected → msg.header.sequence = expected) ∧
    isControl msg = false

instance (s : Session) (msg : RdowsMessage) : Decidable (s.ReachesDispatch msg) :=
  -- At most one number is expected; there is no need to try all of them.
  have : Decidable (∀ expected, s.expectedRemoteSeq = some expected →
      msg.header.sequence = expected) :=
    Option.decidableForallMem s.expectedRemoteSeq
  instDecidableAnd

end Session

namespace ServerRun

/-- A fresh session, before its first frame. -/
def new (config : ServerConfig) (now : ℕ) : ServerRun := ⟨.new config now, true⟩

/-- Handle one decoded message.  The loop goes on if the handler returned and has not closed the
session. -/
def handle (r : ServerRun) (env : Env) (msg : RdowsMessage) : Served × ServerRun :=
  let out := (Handler.handleMessage env msg).run ⟨r.session, []⟩
  ({ dispatched := if r.session.ReachesDispatch msg then some msg else none
     replies := out.2.sent },
    { session := out.2.session
      running := out.1.IsOk ∧ out.2.session.state ≠ .closed })

/-- One turn of `run_session`.  A frame that does not decode ends the loop without a reply. -/
def step (r : ServerRun) (input : Env × WsMessage) : Served × ServerRun :=
  if r.running then
    match input.2 with
    | .binary data =>
        match RdowsMessage.decode data with
        | .ok msg => r.handle input.1 msg
        | .err _ | .panic _ => (⟨none, []⟩, { r with running := false })
    | .close | .error => (⟨none, []⟩, { r with running := false })
    | .other => (⟨none, []⟩, r)
  else (⟨none, []⟩, r)

end ServerRun

end Rdows
