import Rdows.Client.Connection

/-!
# The client's verbs

The verbs of `verbs.rs` as agents.  Each one sends its frames, waits for one message that is not a
CREDIT_UPDATE, and ends with what it makes of that message; the part after the wait is a local
method of its own.

## Calls as data

`Verb` is the type of calls and `Verb.start` runs one.  An application is then a program over verbs,
and a run of a connection a list of them; the constructors are the methods that `RdowsConnection`
offers, local accesses and polls included.  `VerbValue` is the sum of what the methods return.

## The shape of a call

`Verb.start_remote` and `Verb.start_cases` say all there is to know about a call before the answer
arrives: it ended without a frame on the wire, or it is a `Talk.request` whose frames are listed by
`Requests`, numbered on from the last one.  Nothing else of a verb's body is needed by what follows;
a change in one verb shows here and in the lemma about its answer.

## What a verb does not look at

The answer to a call is the next message that is not a CREDIT_UPDATE.  Its kind is checked, but
neither its WRID nor its length is compared with the request: `rdma_read` stores as many bytes as
arrive, and `atomic_cas` ignores the status of the response.  Messages of the wrong kind end a work
request with an error and without a completion.
-/

namespace Rdows

open Rust

/-- An agent of the client: its frames are bytes, what it waits for are messages. -/
abbrev Client := Agent RdowsConnection RdowsError Bytes RdowsMessage

namespace RdowsConnection

/-- `send_message`.  That the WebSocket may refuse a frame is left to the system around the
agent. -/
def sendMessage (msg : RdowsMessage) : Client Unit := Agent.send msg.encode

/-- `recv_app_message`: wait for the next message that is no CREDIT_UPDATE.  Its turns are
`recvTurn`. -/
def recvAppMessage : Client RdowsMessage := Agent.receive

/-- The connection itself. -/
def current : Client RdowsConnection := Agent.ofMethod Method.get

/-- `return Err(e)`. -/
def fail {α : Type} (e : RdowsError) : Client α := Agent.ofMethod (Method.throw e)

/-! ### Memory regions -/

/-- `ErrorCode::try_from(ack.status).unwrap_or(ErrInternal)` as an error. -/
def statusError (status : UInt16) : RdowsError := .protocol (ErrorCode.tryFromOrInternal status)

/-- The answer to MR_REG.  The buffer is allocated twice: one copy is kept under the L_Key of the
answer, the other is handed to the application.  A region that has this L_Key already is
replaced. -/
def onMrRegAck (regionLen : UInt64) : RdowsMessage → Local MemoryRegionHandle
  | .mrRegAck _ ack =>
      if ack.status ≠ 0 then Method.throw (statusError ack.status)
      else do
        let localBuf ← Method.lift (zeroed regionLen.toNat)
        let handle : MemoryRegionHandle :=
          { lkey := ack.lkey, rkey := ack.rkey, len := regionLen, localBuf }
        Method.modify fun c => { c with localMrs := c.localMrs.insert ack.lkey.value handle }
        -- the clone that is returned; the buffer in the map is not shared with it
        let copy ← Method.lift (zeroed regionLen.toNat)
        return { handle with localBuf := copy }
  | .error _ err => Method.throw (.protocol err.errorCode)
  | other => Method.throw (.unexpectedMessage "MR_REG_ACK" other.header.opcode)

/-- `reg_mr`. -/
def regMr (accessFlags : AccessFlags) (regionLen : UInt64) : Client MemoryRegionHandle := do
  let header ← Agent.ofMethod (nextHeader .mrReg 0)
  let c ← current
  sendMessage (.mrReg header { pd := c.pd, accessFlags, regionLen, suggestedLkey := none })
  let resp ← recvAppMessage
  Agent.ofMethod (onMrRegAck regionLen resp)

/-- The answer to MR_DEREG.  The local buffer is dropped only if the server has released its
region. -/
def onMrDeregAck (lkey : LKey) : RdowsMessage → Local Unit
  | .mrDeregAck _ ack =>
      if ack.status ≠ 0 then Method.throw (statusError ack.status)
      else Method.modify fun c => { c with localMrs := c.localMrs.erase lkey.value }
  | .error _ err => Method.throw (.protocol err.errorCode)
  | other => Method.throw (.unexpectedMessage "MR_DEREG_ACK" other.header.opcode)

/-- `dereg_mr`. -/
def deregMr (lkey : LKey) : Client Unit := do
  let header ← Agent.ofMethod (nextHeader .mrDereg 0)
  let c ← current
  sendMessage (.mrDereg header { pd := c.pd, lkey })
  let resp ← recvAppMessage
  Agent.ofMethod (onMrDeregAck lkey resp)

/-! ### Work requests -/

/-- The last two arms of every work request: an ERROR completes it with the error's code, any
other message is reported. -/
def notCompleted {α : Type} (wrid : UInt64) (opcode : Opcode) (expected : String) :
    RdowsMessage → Local α
  | .error _ err => do
      pushCqe wrid err.errorCode.toU16 opcode 0
      Method.throw (.protocol err.errorCode)
  | other => Method.throw (.unexpectedMessage expected other.header.opcode)

/-- The answer to a SEND.  The credit is paid when the SEND is completed, not when it is sent. -/
def onRecvComp (wrid : UInt64) (totalLen : UInt32) : RdowsMessage → Local Unit
  | .recvComp _ => do
      let c ← Method.get
      let credits ← Method.lift (.orPanic .arithmeticOverflow (checkedSub32 c.sendCredits 1))
      Method.modify fun c => { c with sendCredits := credits }
      pushCqe wrid 0 .send totalLen
  | other => notCompleted wrid .send "RECV_COMP" other

/-- `post_send`: room in the queue and a credit are checked first, then the data is gathered, and
only then is anything sent. -/
def postSend (wrid : UInt64) (sgList : List ScatterGatherEntry) : Client Unit := do
  let c ← current
  if c.cq.isFull then fail (.protocol .errCqOverflow)
  else if c.sendCredits = 0 then fail .sendCreditsExhausted
  else do
    let data ← Agent.ofMethod (Method.lift (c.gatherSgData sgList))
    let header ← Agent.ofMethod (nextHeader .send wrid)
    sendMessage (.send header { sgList })
    let dataHeader ← Agent.ofMethod (nextHeader .sendData wrid)
    sendMessage (.sendData dataHeader { data })
    let resp ← recvAppMessage
    Agent.ofMethod (onRecvComp wrid (UInt32.ofNat data.length) resp)

/-- The answer to a WRITE.  The byte count is cut to 32 bits. -/
def onWriteComp (wrid : UInt64) (totalLen : UInt64) : RdowsMessage → Local Unit
  | .writeComp _ => pushCqe wrid 0 .write totalLen.toUInt32
  | other => notCompleted wrid .write "WRITE_COMP" other

/-- `rdma_write`: like `post_send`, without a credit.  The destination is checked by the server
alone. -/
def rdmaWrite (wrid : UInt64) (rkey : RKey) (remoteVa : UInt64)
    (sgList : List ScatterGatherEntry) : Client Unit := do
  let c ← current
  if c.cq.isFull then fail (.protocol .errCqOverflow)
  else do
    let data ← Agent.ofMethod (Method.lift (c.gatherSgData sgList))
    let length := UInt64.ofNat data.length
    let header ← Agent.ofMethod (nextHeader .write wrid)
    sendMessage (.write header { rkey, remoteVa, length, sgList })
    let dataHeader ← Agent.ofMethod (nextHeader .writeData wrid)
    sendMessage (.writeData dataHeader { data })
    let resp ← recvAppMessage
    Agent.ofMethod (onWriteComp wrid length resp)

/-- The answer to a READ_REQ.  The data is stored before the completion is pushed, so a call that
cannot store it has none; its length is not compared with what was asked for. -/
def onReadResp (wrid : UInt64) (localLkey : LKey) (localVa : UInt64) : RdowsMessage → Local Unit
  | .readResp _ payload => do
      copyToLocalMr localLkey localVa.toNat payload.data
      pushCqe wrid 0 .readReq (UInt32.ofNat payload.data.length)
  | other => notCompleted wrid .readReq "READ_RESP" other

/-- `rdma_read`.  The local destination is checked when the data arrives, not before the request is
sent. -/
def rdmaRead (wrid : UInt64) (rkey : RKey) (remoteVa readLen : UInt64) (localLkey : LKey)
    (localVa : UInt64) : Client Unit := do
  let c ← current
  if c.cq.isFull then fail (.protocol .errCqOverflow)
  else do
    let header ← Agent.ofMethod (nextHeader .readReq wrid)
    sendMessage (.readReq header { rkey, remoteVa, readLen, localLkey, localVa })
    let resp ← recvAppMessage
    Agent.ofMethod (onReadResp wrid localLkey localVa resp)

/-- The answer to an ATOMIC_REQ.  The status of the response is not looked at. -/
def onAtomicResp (wrid : UInt64) : RdowsMessage → Local UInt64
  | .atomicResp _ payload => do
      pushCqe wrid 0 .atomicReq 8
      return payload.originalValue
  | other => notCompleted wrid .atomicReq "ATOMIC_RESP" other

/-- `post_atomic`. -/
def postAtomic (wrid : UInt64) (rkey : RKey) (remoteVa : UInt64) (atomicType : UInt8)
    (operand1 operand2 : UInt64) : Client UInt64 := do
  let c ← current
  if c.cq.isFull then fail (.protocol .errCqOverflow)
  else do
    let header ← Agent.ofMethod (nextHeader .atomicReq wrid)
    sendMessage (.atomicReq header { rkey, atomicType, remoteVa, operand1, operand2 })
    let resp ← recvAppMessage
    Agent.ofMethod (onAtomicResp wrid resp)

/-- `atomic_cas`. -/
def atomicCas (wrid : UInt64) (rkey : RKey) (remoteVa compare swap : UInt64) : Client UInt64 :=
  postAtomic wrid rkey remoteVa atomicTypeCas compare swap

/-- `atomic_faa`. -/
def atomicFaa (wrid : UInt64) (rkey : RKey) (remoteVa addend : UInt64) : Client UInt64 :=
  postAtomic wrid rkey remoteVa atomicTypeFaa addend 0

end RdowsConnection

/-! ### Calls -/

/-- A call of a method of the connection, with its arguments. -/
inductive Verb where
  | regMr (accessFlags : AccessFlags) (regionLen : UInt64)
  | deregMr (lkey : LKey)
  | postSend (wrid : UInt64) (sgList : List ScatterGatherEntry)
  | rdmaWrite (wrid : UInt64) (rkey : RKey) (remoteVa : UInt64)
      (sgList : List ScatterGatherEntry)
  | rdmaRead (wrid : UInt64) (rkey : RKey) (remoteVa readLen : UInt64) (localLkey : LKey)
      (localVa : UInt64)
  | atomicCas (wrid : UInt64) (rkey : RKey) (remoteVa compare swap : UInt64)
  | atomicFaa (wrid : UInt64) (rkey : RKey) (remoteVa addend : UInt64)
  | pollCq (max : ℕ)
  | writeLocalMr (lkey : LKey) (offset : ℕ) (data : Bytes)
  | readLocalMr (lkey : LKey) (offset len : ℕ)
  deriving DecidableEq

/-- What a call returns: one constructor for each return type among the methods. -/
inductive VerbValue where
  | unit
  | handle (handle : MemoryRegionHandle)
  | original (value : UInt64)
  | completions (entries : List CompletionQueueEntry)
  | bytes (data : Bytes)
  deriving DecidableEq

namespace Verb

open RdowsConnection

/-- Make the call. -/
def start : Verb → Client VerbValue
  | regMr accessFlags regionLen => (RdowsConnection.regMr accessFlags regionLen).mapValue .handle
  | deregMr lkey => (RdowsConnection.deregMr lkey).mapValue fun _ => .unit
  | postSend wrid sgList => (RdowsConnection.postSend wrid sgList).mapValue fun _ => .unit
  | rdmaWrite wrid rkey remoteVa sgList =>
      (RdowsConnection.rdmaWrite wrid rkey remoteVa sgList).mapValue fun _ => .unit
  | rdmaRead wrid rkey remoteVa readLen localLkey localVa =>
      (RdowsConnection.rdmaRead wrid rkey remoteVa readLen localLkey localVa).mapValue
        fun _ => .unit
  | atomicCas wrid rkey remoteVa compare swap =>
      (RdowsConnection.atomicCas wrid rkey remoteVa compare swap).mapValue .original
  | atomicFaa wrid rkey remoteVa addend =>
      (RdowsConnection.atomicFaa wrid rkey remoteVa addend).mapValue .original
  | pollCq max => Agent.ofMethod ((RdowsConnection.pollCq max).mapValue .completions)
  | writeLocalMr lkey offset data =>
      Agent.ofMethod ((RdowsConnection.writeLocalMr lkey offset data).mapValue fun _ => .unit)
  | readLocalMr lkey offset len => Agent.ofMethod fun c =>
      ((c.readLocalMr lkey offset len).map .bytes, c)

/-- The call needs the server.  The others only look at the connection, and end at once. -/
def isRemote : Verb → Bool
  | pollCq .. | writeLocalMr .. | readLocalMr .. => false
  | _ => true

end Verb

/-! ### The shape of a call -/

namespace RdowsConnection

/-- The header the connection would use next. -/
def headerFor (c : RdowsConnection) (opcode : Opcode) (wrid : UInt64) : RdowsHeader :=
  RdowsHeader.new opcode c.sessionId c.nextSeq wrid

/-- The connection with its next sequence number taken. -/
def bump (c : RdowsConnection) : RdowsConnection := { c with nextSeq := c.nextSeq + 1 }

/-- The sequence numbers of both directions are unchanged.  What a call makes of its answer keeps
them: numbers move only when frames are sent and received. -/
def SameLink (c c' : RdowsConnection) : Prop :=
  c'.nextSeq = c.nextSeq ∧ c'.expectedRemoteSeq = c.expectedRemoteSeq

namespace SameLink

theorem refl (c : RdowsConnection) : c.SameLink c := ⟨rfl, rfl⟩

theorem trans (a b c : RdowsConnection) (hab : a.SameLink b) (hbc : b.SameLink c) :
    a.SameLink c :=
  ⟨hbc.1.trans hab.1, hbc.2.trans hab.2⟩

variable {α β : Type}

theorem bind {x : Local α} {f : α → Local β} (hx : x.Keeps SameLink)
    (hf : ∀ a, (f a).Keeps SameLink) : (x >>= f).Keeps SameLink :=
  Method.Keeps.bind trans hx fun _ a t _ => hf a t

theorem lift (o : Outcome RdowsError α) : (Method.lift o : Local α).Keeps SameLink :=
  .lift refl o

theorem pushCqe (wrid : UInt64) (status : UInt16) (opcode : Opcode) (byteCount : UInt32) :
    (pushCqe wrid status opcode byteCount).Keeps SameLink := fun _ => ⟨rfl, rfl⟩

theorem copyToLocalMr (lkey : LKey) (start : ℕ) (data : Bytes) :
    (copyToLocalMr lkey start data).Keeps SameLink :=
  bind (.get refl) fun _ => bind (lift _) fun _ => bind (lift _) fun _ => bind (lift _) fun _ =>
    fun _ => ⟨rfl, rfl⟩

theorem onMrRegAck (regionLen : UInt64) (m : RdowsMessage) :
    (onMrRegAck regionLen m).Keeps SameLink := by
  cases m with
  | mrRegAck header ack =>
      refine .ite (lift _) (bind (lift _) fun localBuf => ?_)
      refine bind (fun c => ⟨rfl, rfl⟩) fun _ => bind (lift _) fun copy => ?_
      exact .pure refl _
  | _ => exact lift _

theorem onMrDeregAck (lkey : LKey) (m : RdowsMessage) : (onMrDeregAck lkey m).Keeps SameLink := by
  cases m with
  | mrDeregAck header ack => exact .ite (lift _) fun c => ⟨rfl, rfl⟩
  | _ => exact lift _

theorem notCompleted (wrid : UInt64) (opcode : Opcode) (expected : String) (m : RdowsMessage) :
    (notCompleted wrid opcode expected m : Local α).Keeps SameLink := by
  cases m with
  | error header err => exact bind (pushCqe _ _ _ _) fun _ => lift _
  | _ => exact lift _

theorem onRecvComp (wrid : UInt64) (totalLen : UInt32) (m : RdowsMessage) :
    (onRecvComp wrid totalLen m).Keeps SameLink := by
  cases m with
  | recvComp header =>
      exact bind (.get refl) fun _ => bind (lift _) fun _ => bind (fun c => ⟨rfl, rfl⟩) fun _ =>
        pushCqe _ _ _ _
  | _ => exact notCompleted _ _ _ _

theorem onWriteComp (wrid totalLen : UInt64) (m : RdowsMessage) :
    (onWriteComp wrid totalLen m).Keeps SameLink := by
  cases m with
  | writeComp header => exact pushCqe _ _ _ _
  | _ => exact notCompleted _ _ _ _

theorem onReadResp (wrid : UInt64) (localLkey : LKey) (localVa : UInt64) (m : RdowsMessage) :
    (onReadResp wrid localLkey localVa m).Keeps SameLink := by
  cases m with
  | readResp header payload =>
      exact bind (copyToLocalMr _ _ _) fun _ => pushCqe _ _ _ _
  | _ => exact notCompleted _ _ _ _

theorem onAtomicResp (wrid : UInt64) (m : RdowsMessage) :
    (onAtomicResp wrid m).Keeps SameLink := by
  cases m with
  | atomicResp header payload => exact bind (pushCqe _ _ _ _) fun _ => .pure refl _
  | _ => exact notCompleted _ _ _ _

end SameLink

/-! ### Answers that make a call succeed -/

section Success

variable {m : RdowsMessage} {c c' : RdowsConnection} {wrid : UInt64}

theorem onMrRegAck_eq_ok {regionLen : UInt64} {handle : MemoryRegionHandle}
    (run : (onMrRegAck regionLen m).run c = (.ok handle, c')) :
    ∃ header ack, m = .mrRegAck header ack ∧ ack.status = 0 ∧
      (ack.lkey, ack.rkey) = (handle.lkey, handle.rkey) := by
  cases m with
  | mrRegAck header ack =>
      rw [onMrRegAck, Method.run_ite] at run
      split_ifs at run with status
      · cases run
      · obtain ⟨localBuf, -, run⟩ := Method.run_lift_bind_eq_ok.mp run
        obtain ⟨_, d, -, run⟩ := Method.run_bind_eq_ok.mp run
        obtain ⟨copy, -, run⟩ := Method.run_lift_bind_eq_ok.mp run
        cases run
        exact ⟨header, ack, rfl, not_not.mp status, rfl⟩
  | _ => cases run

theorem onMrDeregAck_eq_ok {lkey : LKey} (run : (onMrDeregAck lkey m).run c = (.ok (), c')) :
    ∃ header ack, m = .mrDeregAck header ack ∧ ack.status = 0 := by
  cases m with
  | mrDeregAck header ack =>
      rw [onMrDeregAck, Method.run_ite] at run
      split_ifs at run with status
      · cases run
      · exact ⟨header, ack, rfl, not_not.mp status⟩
  | _ => cases run

theorem onRecvComp_eq_ok {totalLen : UInt32}
    (run : (onRecvComp wrid totalLen m).run c = (.ok (), c')) : ∃ header, m = .recvComp header := by
  cases m with
  | recvComp header => exact ⟨header, rfl⟩
  | _ => cases run

theorem onWriteComp_eq_ok {totalLen : UInt64}
    (run : (onWriteComp wrid totalLen m).run c = (.ok (), c')) :
    ∃ header, m = .writeComp header := by
  cases m with
  | writeComp header => exact ⟨header, rfl⟩
  | _ => cases run

theorem onReadResp_eq_ok {localLkey : LKey} {localVa : UInt64}
    (run : (onReadResp wrid localLkey localVa m).run c = (.ok (), c')) :
    ∃ header payload, m = .readResp header payload ∧
      c'.readLocalMr localLkey localVa.toNat payload.data.length = .ok payload.data := by
  cases m with
  | readResp header payload =>
      obtain ⟨_, d, copied, run⟩ := Method.run_bind_eq_ok.mp run
      have readBack : d.readLocalMr localLkey localVa.toNat payload.data.length
          = .ok payload.data := readLocalMr_of_copyToLocalMr copied
      cases run
      exact ⟨header, payload, rfl, readBack⟩
  | _ => cases run

theorem onAtomicResp_eq_ok {original : UInt64}
    (run : (onAtomicResp wrid m).run c = (.ok original, c')) :
    ∃ header payload, m = .atomicResp header payload ∧ payload.originalValue = original := by
  cases m with
  | atomicResp header payload =>
      cases run
      exact ⟨header, payload, rfl, rfl⟩
  | _ => cases run

end Success

end RdowsConnection

/-- What a request puts on the wire, and what it makes of the answer.  One constructor for each
remote verb, with the values that were computed before the first frame was sent. -/
inductive Verb.Requests (c : RdowsConnection) :
    Verb → List RdowsMessage → (RdowsMessage → RdowsConnection.Local VerbValue) → Prop
  | regMr (accessFlags : AccessFlags) (regionLen : UInt64) :
      Requests c (.regMr accessFlags regionLen)
        [.mrReg (c.headerFor .mrReg 0)
          { pd := c.pd, accessFlags, regionLen, suggestedLkey := none }]
        fun m => (RdowsConnection.onMrRegAck regionLen m).mapValue .handle
  | deregMr (lkey : LKey) :
      Requests c (.deregMr lkey) [.mrDereg (c.headerFor .mrDereg 0) { pd := c.pd, lkey }]
        fun m => (RdowsConnection.onMrDeregAck lkey m).mapValue fun _ => .unit
  | postSend (wrid : UInt64) (sgList : List ScatterGatherEntry) (data : Bytes)
      (gathered : c.gatherSgData sgList = .ok data) :
      Requests c (.postSend wrid sgList)
        [.send (c.headerFor .send wrid) { sgList },
          .sendData (c.bump.headerFor .sendData wrid) { data }]
        fun m => (RdowsConnection.onRecvComp wrid (UInt32.ofNat data.length) m).mapValue
          fun _ => .unit
  | rdmaWrite (wrid : UInt64) (rkey : RKey) (remoteVa : UInt64)
      (sgList : List ScatterGatherEntry) (data : Bytes)
      (gathered : c.gatherSgData sgList = .ok data) :
      Requests c (.rdmaWrite wrid rkey remoteVa sgList)
        [.write (c.headerFor .write wrid)
            { rkey, remoteVa, length := UInt64.ofNat data.length, sgList },
          .writeData (c.bump.headerFor .writeData wrid) { data }]
        fun m => (RdowsConnection.onWriteComp wrid (UInt64.ofNat data.length) m).mapValue
          fun _ => .unit
  | rdmaRead (wrid : UInt64) (rkey : RKey) (remoteVa readLen : UInt64) (localLkey : LKey)
      (localVa : UInt64) :
      Requests c (.rdmaRead wrid rkey remoteVa readLen localLkey localVa)
        [.readReq (c.headerFor .readReq wrid) { rkey, remoteVa, readLen, localLkey, localVa }]
        fun m => (RdowsConnection.onReadResp wrid localLkey localVa m).mapValue fun _ => .unit
  | atomicCas (wrid : UInt64) (rkey : RKey) (remoteVa compare swap : UInt64) :
      Requests c (.atomicCas wrid rkey remoteVa compare swap)
        [.atomicReq (c.headerFor .atomicReq wrid)
          { rkey, atomicType := atomicTypeCas, remoteVa, operand1 := compare, operand2 := swap }]
        fun m => (RdowsConnection.onAtomicResp wrid m).mapValue .original
  | atomicFaa (wrid : UInt64) (rkey : RKey) (remoteVa addend : UInt64) :
      Requests c (.atomicFaa wrid rkey remoteVa addend)
        [.atomicReq (c.headerFor .atomicReq wrid)
          { rkey, atomicType := atomicTypeFaa, remoteVa, operand1 := addend, operand2 := 0 }]
        fun m => (RdowsConnection.onAtomicResp wrid m).mapValue .original

namespace RdowsConnection

variable (c : RdowsConnection) (wrid : UInt64) (sgList : List ScatterGatherEntry) (rkey : RKey)
  (remoteVa : UInt64)

/-- What the opening checks of a work request refuse ends the call. -/
theorem postSend_start : (postSend wrid sgList).start c =
    if c.cq.isFull then .done (.err (.protocol .errCqOverflow)) c
    else if c.sendCredits = 0 then .done (.err .sendCreditsExhausted) c
    else match c.gatherSgData sgList with
      | .ok data => .request
          [(RdowsMessage.send (c.headerFor .send wrid) { sgList }).encode,
            (RdowsMessage.sendData (c.bump.headerFor .sendData wrid) { data }).encode]
          c.bump.bump (onRecvComp wrid (UInt32.ofNat data.length))
      | .err e => .done (.err e) c
      | .panic p => .done (.panic p) c := by
  show Agent.start (if c.cq.isFull = true then _ else if c.sendCredits = 0 then _ else _) c = _
  rw [Agent.start_ite, Agent.start_ite]
  rcases gathered : c.gatherSgData sgList with data | e | p <;> rfl

@[inherit_doc postSend_start]
theorem rdmaWrite_start : (rdmaWrite wrid rkey remoteVa sgList).start c =
    if c.cq.isFull then .done (.err (.protocol .errCqOverflow)) c
    else match c.gatherSgData sgList with
      | .ok data => .request
          [(RdowsMessage.write (c.headerFor .write wrid)
              { rkey, remoteVa, length := UInt64.ofNat data.length, sgList }).encode,
            (RdowsMessage.writeData (c.bump.headerFor .writeData wrid) { data }).encode]
          c.bump.bump (onWriteComp wrid (UInt64.ofNat data.length))
      | .err e => .done (.err e) c
      | .panic p => .done (.panic p) c := by
  show Agent.start (if c.cq.isFull = true then _ else _) c = _
  rw [Agent.start_ite]
  rcases gathered : c.gatherSgData sgList with data | e | p <;> rfl

@[inherit_doc postSend_start]
theorem rdmaRead_start (readLen : UInt64) (localLkey : LKey) (localVa : UInt64) :
    (rdmaRead wrid rkey remoteVa readLen localLkey localVa).start c =
      if c.cq.isFull then .done (.err (.protocol .errCqOverflow)) c
      else .request [(RdowsMessage.readReq (c.headerFor .readReq wrid)
          { rkey, remoteVa, readLen, localLkey, localVa }).encode]
        c.bump (onReadResp wrid localLkey localVa) := by
  show Agent.start (if c.cq.isFull = true then _ else _) c = _
  rw [Agent.start_ite]
  rfl

@[inherit_doc postSend_start]
theorem postAtomic_start (atomicType : UInt8) (operand1 operand2 : UInt64) :
    (postAtomic wrid rkey remoteVa atomicType operand1 operand2).start c =
      if c.cq.isFull then .done (.err (.protocol .errCqOverflow)) c
      else .request [(RdowsMessage.atomicReq (c.headerFor .atomicReq wrid)
          { rkey, atomicType, remoteVa, operand1, operand2 }).encode]
        c.bump (onAtomicResp wrid) := by
  show Agent.start (if c.cq.isFull = true then _ else _) c = _
  rw [Agent.start_ite]
  rfl

end RdowsConnection

namespace Verb

open RdowsConnection

/-- The end of a call does not touch the sequence numbers. -/
theorem Requests.finish_sameLink {v : Verb} {c : RdowsConnection} {messages : List RdowsMessage}
    {finish : RdowsMessage → Local VerbValue} (requests : v.Requests c messages finish)
    (m : RdowsMessage) : (finish m).Keeps SameLink := by
  cases requests with
  | regMr accessFlags regionLen => exact SameLink.onMrRegAck _ m
  | deregMr lkey => exact SameLink.onMrDeregAck _ m
  | postSend wrid sgList data gathered => exact SameLink.onRecvComp _ _ m
  | rdmaWrite wrid rkey remoteVa sgList data gathered => exact SameLink.onWriteComp _ _ m
  | rdmaRead wrid rkey remoteVa readLen localLkey localVa => exact SameLink.onReadResp _ _ _ m
  | atomicCas wrid rkey remoteVa compare swap => exact SameLink.onAtomicResp _ m
  | atomicFaa wrid rkey remoteVa addend => exact SameLink.onAtomicResp _ m

/-- The opening checks of a work request that only look at the connection: room in the completion
queue, and a credit for a SEND. -/
def Passes (c : RdowsConnection) : Verb → Prop
  | postSend .. => c.cq.isFull = false ∧ c.sendCredits ≠ 0
  | rdmaWrite .. | rdmaRead .. | atomicCas .. | atomicFaa .. => c.cq.isFull = false
  | regMr .. | deregMr .. | pollCq .. | writeLocalMr .. | readLocalMr .. => True

/-- **The shape of a remote call.**  It is refused at once and leaves the connection alone; or it
has passed its checks and is a request whose frames are numbered on from the last one. -/
theorem start_remote (v : Verb) (c : RdowsConnection) (remote : v.isRemote = true) :
    (∃ out, v.start.start c = .done out c ∧ ¬ out.IsOk) ∨
    ∃ messages next finish, v.start.start c
        = .request (messages.map RdowsMessage.encode) { c with nextSeq := next } finish ∧
      v.Requests c messages finish ∧ v.Passes c ∧ Numbered c.nextSeq messages next := by
  have refused {v : Verb} {out : Outcome RdowsError VerbValue} (fails : ¬ out.IsOk)
      (h : v.start.start c = .done out c) : ∃ out, v.start.start c = .done out c ∧ ¬ out.IsOk :=
    ⟨out, h, fails⟩
  have requested {v : Verb} {messages : List RdowsMessage} {finish : RdowsMessage → Local VerbValue}
      (requests : v.Requests c messages finish) (passes : v.Passes c) (next : UInt32)
      (numbered : Numbered c.nextSeq messages next)
      (run : v.start.start c
        = .request (messages.map RdowsMessage.encode) { c with nextSeq := next } finish) :
      ∃ messages next finish, v.start.start c
          = .request (messages.map RdowsMessage.encode) { c with nextSeq := next } finish ∧
        v.Requests c messages finish ∧ v.Passes c ∧ Numbered c.nextSeq messages next :=
    ⟨messages, next, finish, run, requests, passes, numbered⟩
  cases v with
  | regMr accessFlags regionLen =>
      exact .inr (requested (.regMr accessFlags regionLen) trivial _ ⟨rfl, rfl⟩ rfl)
  | deregMr lkey => exact .inr (requested (.deregMr lkey) trivial _ ⟨rfl, rfl⟩ rfl)
  | postSend wrid sgList =>
      have run := congrArg (Talk.map fun _ => VerbValue.unit) (c.postSend_start wrid sgList)
      by_cases full : c.cq.isFull = true
      · rw [if_pos full] at run
        exact .inl (refused id run)
      by_cases exhausted : c.sendCredits = 0
      · rw [if_neg full, if_pos exhausted] at run
        exact .inl (refused id run)
      rw [if_neg full, if_neg exhausted] at run
      rcases gathered : c.gatherSgData sgList with data | e | p <;> rw [gathered] at run
      · rw [Talk.map_request] at run
        exact .inr (requested (.postSend wrid sgList data gathered)
          ⟨Bool.eq_false_iff.mpr full, exhausted⟩ _ ⟨rfl, rfl, rfl⟩ run)
      · exact .inl (refused id run)
      · exact .inl (refused id run)
  -- The other work requests look at the queue only, and not at the credits.
  | rdmaWrite wrid rkey remoteVa sgList =>
      have run := congrArg (Talk.map fun _ => VerbValue.unit)
        (c.rdmaWrite_start wrid sgList rkey remoteVa)
      by_cases full : c.cq.isFull = true
      · rw [if_pos full] at run
        exact .inl (refused id run)
      rw [if_neg full] at run
      rcases gathered : c.gatherSgData sgList with data | e | p <;> rw [gathered] at run
      · rw [Talk.map_request] at run
        exact .inr (requested (.rdmaWrite wrid rkey remoteVa sgList data gathered)
          (Bool.eq_false_iff.mpr full) _ ⟨rfl, rfl, rfl⟩ run)
      · exact .inl (refused id run)
      · exact .inl (refused id run)
  | rdmaRead wrid rkey remoteVa readLen localLkey localVa =>
      have run := congrArg (Talk.map fun _ => VerbValue.unit)
        (c.rdmaRead_start wrid rkey remoteVa readLen localLkey localVa)
      by_cases full : c.cq.isFull = true
      · rw [if_pos full] at run
        exact .inl (refused id run)
      · rw [if_neg full, Talk.map_request] at run
        exact .inr (requested (.rdmaRead wrid rkey remoteVa readLen localLkey localVa)
          (Bool.eq_false_iff.mpr full) _ ⟨rfl, rfl⟩ run)
  | atomicCas wrid rkey remoteVa compare swap =>
      have run := congrArg (Talk.map VerbValue.original)
        (c.postAtomic_start wrid rkey remoteVa atomicTypeCas compare swap)
      by_cases full : c.cq.isFull = true
      · rw [if_pos full] at run
        exact .inl (refused id run)
      · rw [if_neg full, Talk.map_request] at run
        exact .inr (requested (.atomicCas wrid rkey remoteVa compare swap)
          (Bool.eq_false_iff.mpr full) _ ⟨rfl, rfl⟩ run)
  | atomicFaa wrid rkey remoteVa addend =>
      have run := congrArg (Talk.map VerbValue.original)
        (c.postAtomic_start wrid rkey remoteVa atomicTypeFaa addend 0)
      by_cases full : c.cq.isFull = true
      · rw [if_pos full] at run
        exact .inl (refused id run)
      · rw [if_neg full, Talk.map_request] at run
        exact .inr (requested (.atomicFaa wrid rkey remoteVa addend)
          (Bool.eq_false_iff.mpr full) _ ⟨rfl, rfl⟩ run)
  | pollCq max => cases remote
  | writeLocalMr lkey offset data => cases remote
  | readLocalMr lkey offset len => cases remote

/-- A `post_send` that passes its checks puts its two frames on the wire. -/
theorem start_postSend {c : RdowsConnection} {sgList : List ScatterGatherEntry} {data : Bytes}
    (gathered : c.gatherSgData sgList = .ok data) (room : c.cq.isFull = false)
    (credits : c.sendCredits ≠ 0) (wrid : UInt64) :
    (Verb.postSend wrid sgList).start.start c = .request
      [(RdowsMessage.send (c.headerFor .send wrid) { sgList }).encode,
        (RdowsMessage.sendData (c.bump.headerFor .sendData wrid) { data }).encode]
      c.bump.bump fun m =>
        (onRecvComp wrid (UInt32.ofNat data.length) m).mapValue fun _ => .unit := by
  have run := congrArg (Talk.map fun _ => VerbValue.unit) (c.postSend_start wrid sgList)
  rw [room, if_neg Bool.false_ne_true, if_neg credits, gathered] at run
  dsimp only at run
  rw [Talk.map_request] at run
  exact run

/-- A `reg_mr` puts its frame on the wire. -/
theorem start_regMr (c : RdowsConnection) (accessFlags : AccessFlags) (regionLen : UInt64) :
    (Verb.regMr accessFlags regionLen).start.start c = .request
      [(RdowsMessage.mrReg (c.headerFor .mrReg 0)
        { pd := c.pd, accessFlags, regionLen, suggestedLkey := none }).encode]
      c.bump fun m => (onMrRegAck regionLen m).mapValue .handle := rfl

/-- **The shape of a call.**  It ends at once, and successfully only if it is a local one; or
it is a request whose frames are numbered on from the last one. -/
theorem start_cases (v : Verb) (c : RdowsConnection) :
    (∃ out c', v.start.start c = .done out c' ∧ c.SameLink c' ∧
      (v.isRemote = true → ¬ out.IsOk)) ∨
    ∃ messages c' finish, v.start.start c = .request (messages.map RdowsMessage.encode) c' finish ∧
      v.Requests c messages finish ∧ Numbered c.nextSeq messages c'.nextSeq ∧
      c'.expectedRemoteSeq = c.expectedRemoteSeq := by
  by_cases remote : v.isRemote = true
  · rcases v.start_remote c remote with ⟨out, ended, fails⟩ |
      ⟨messages, next, finish, started, requests, -, numbered⟩
    · exact .inl ⟨out, c, ended, .refl c, fun _ => fails⟩
    · exact .inr ⟨messages, _, finish, started, requests, numbered, rfl⟩
  · refine .inl ?_
    cases v with
    | pollCq max => exact ⟨_, _, rfl, ⟨rfl, rfl⟩, fun isRemote => absurd isRemote remote⟩
    | writeLocalMr lkey offset data =>
        exact ⟨_, _, rfl, SameLink.copyToLocalMr lkey offset data c,
          fun isRemote => absurd isRemote remote⟩
    | readLocalMr lkey offset len =>
        exact ⟨_, c, rfl, .refl c, fun isRemote => absurd isRemote remote⟩
    | _ => exact absurd rfl remote

end Verb

end Rdows
