import Rdows.Client.Verbs
import Rdows.Server.SessionAnswers

/-!
# A client and a server joined by two channels

One `RdowsConnection` and one server session, with a FIFO channel in each direction.  The client
makes one call after the other; while a call is under way, the client and the server move in any
order.

## Moves and events

* A `Move` is a new call, one step of the client (send the next frame, take the next message in,
  return), or one frame handled by the server.  A move that is not possible changes nothing.
* The frames on the way carry the number of the call they belong to, and a reply carries the number
  of the call whose frame was being handled.  Neither party sees these numbers; they only say whose
  answer a message is.
* What is worth remembering of a move is its `Event`: a frame was handled, or a call returned.  The
  history of a run is therefore the list of all frames handled and all calls returned.

## The transport

Between the two there is a WebSocket, which neither party looks into.  `Transport` says what it does
to them, and every theorem about a network is a theorem about every transport.

* A frame above its limit is not delivered: the stream of the party that should receive it yields an
  error in its place.  The server ends the session then; the client's call fails, and so does every
  later one that wants to read.
* A client that reads when the server is gone fails with an error of the WebSocket, or finds the
  stream at its end.  Which of the two it is depends on how the server's task ended and on what the
  operating system still had buffered, and is left open.
* What the client sends is accepted, also if the server is gone: the frame stays in the channel, and
  the call fails when it reads.

`Network.start` is the state after the handshake, run with the two parties' own functions.
-/

namespace Rdows

open Rust

/-! ### The transport -/

/-- The errors of a call that finds no server: its stream has ended, or yields an error. -/
def RdowsError.OfTransport : RdowsError → Prop
  | sessionClosed | webSocket _ => True
  | _ => False

/-- **The WebSocket below the two parties**: the limit on the size of a frame, and what a call gets
from the stream when the server is gone.  Within these it delivers every frame, once and in
order. -/
structure Transport where
  /-- `max_frame_size` of the configuration, the same on both sides; `none` is no limit. -/
  maxFrameSize : Option ℕ
  /-- What the client's stream yields to a call, given by its number, once there is no frame to be
  read any more: the text of an error, or nothing at its end. -/
  failure : ℕ → Option String
  /-- Every frame without a list, data or a read region in it is carried; the longest one is an
  ERROR. -/
  small : ∀ limit ∈ maxFrameSize, 128 ≤ limit

namespace Transport

/-- A frame of this length is within the limit.  Without a limit every frame is. -/
def takes (t : Transport) (length : ℕ) : Bool := t.maxFrameSize.all fun limit => length ≤ limit

/-- The frame is within the limit. -/
def fits (t : Transport) (frame : Bytes) : Bool := t.takes frame.length

/-- What the server's stream yields for a frame: the frame, or an error in its place. -/
def deliver (t : Transport) (frame : Bytes) : WsMessage :=
  if t.fits frame then .binary frame else .error

/-- What the client's stream yields when there is no frame to be read any more. -/
def ending (t : Transport) (call : ℕ) : Option StreamItem := (t.failure call).map Except.error

/-- The error that `recv_message` makes of it: that of the stream, or that the session is closed. -/
def lost (t : Transport) (call : ℕ) : RdowsError :=
  match t.failure call with
  | some reason => .webSocket reason
  | none => .sessionClosed

/-- The configuration that both parties use: the default limit of 16 MiB. -/
def standard : Transport where
  maxFrameSize := some (16 * 2 ^ 20)
  failure _ := none
  small limit h := by cases h; decide

variable {t : Transport}

theorem takes_of_le {length : ℕ} (short : length ≤ 128) : t.takes length = true := by
  rw [takes, Option.all_eq_true]
  exact fun limit h => decide_eq_true (short.trans (t.small limit h))

/-- What takes a frame takes every shorter one. -/
theorem takes_mono {length length' : ℕ} (shorter : length ≤ length')
    (taken : t.takes length' = true) : t.takes length = true := by
  rw [takes, Option.all_eq_true] at taken ⊢
  exact fun limit h => decide_eq_true (shorter.trans (of_decide_eq_true (taken limit h)))

theorem fits_of_length_le {frame : Bytes} (short : frame.length ≤ 128) : t.fits frame = true :=
  takes_of_le short

theorem length_le_of_fits {limit : ℕ} {frame : Bytes} (limited : t.maxFrameSize = some limit)
    (within : t.fits frame = true) : frame.length ≤ limit := by
  rw [fits, takes, limited] at within
  exact of_decide_eq_true within

/-- A message is carried if its payload leaves room for the header. -/
theorem fits_encode {m : RdowsMessage} :
    t.fits m.encode = t.takes (headerSize + m.encodePayload.length) := by
  rw [fits, RdowsMessage.length_encode]

theorem deliver_of_fits {frame : Bytes} (within : t.fits frame = true) :
    t.deliver frame = .binary frame :=
  if_pos within

theorem deliver_of_not_fits {frame : Bytes} (beyond : t.fits frame = false) :
    t.deliver frame = .error :=
  if_neg (Bool.eq_false_iff.mp beyond)

theorem lost_ofTransport (t : Transport) (call : ℕ) : (t.lost call).OfTransport := by
  rw [lost]
  cases t.failure call <;> trivial

/-- The transport knows nothing of credits. -/
theorem lost_ne_exhausted {α : Type} (t : Transport) (call : ℕ) :
    (.err (t.lost call) : Outcome RdowsError α) ≠ .err .sendCreditsExhausted := by
  have ofTransport := t.lost_ofTransport call
  generalize t.lost call = e at ofTransport
  rintro ⟨⟩
  exact ofTransport

/-- A read with nothing to be read fails. -/
theorem run_recvTurn_ending (call : ℕ) (c : RdowsConnection) :
    (RdowsConnection.recvTurn (t.ending call)).run c = (.err (t.lost call), c) := by
  rw [ending, lost]
  cases t.failure call <;> rfl

end Transport

/-! ### The two parties -/

/-- What the client is doing: nothing, a call with what is left of its talk, or nothing any more
after a panic. -/
inductive Phase where
  /-- No call is under way. -/
  | idle (conn : RdowsConnection)
  /-- A call that started on the connection `before` is under way; `consumed` is the message
  it has taken as its answer, with the number of the call it was sent for. -/
  | inCall (verb : Verb) (before : RdowsConnection) (consumed : Option (ℕ × RdowsMessage))
      (talk : Talk RdowsConnection RdowsError Bytes RdowsMessage VerbValue)
  /-- A call panicked. -/
  | crashed

/-- The client can be called. -/
def Phase.isIdle : Phase → Bool
  | idle _ => true
  | _ => false

/-- A frame was handled: whose it was, and the session before and after.  The session is recorded
whole, so that a theorem may say what was done for the frame. -/
structure Handled where
  call : ℕ
  before : Session
  replies : List RdowsMessage
  after : Session

/-- A call returned: its number, the connection before and after, its result, and the message it
took as its answer with the number of the call that message was sent for. -/
structure Returned where
  call : ℕ
  verb : Verb
  before : RdowsConnection
  result : Outcome RdowsError VerbValue
  after : RdowsConnection
  consumed : Option (ℕ × RdowsMessage)

/-- What happened in a move.  Moves that concern no one but the party that makes them are
`quiet`. -/
inductive Event where
  | quiet
  | handled (record : Handled)
  | returned (record : Returned)

/-- A move of one of the parties.  The server's move carries the reading of the clock and the draws
of its generator, which are the outside's choice. -/
inductive Move where
  | call (verb : Verb)
  | client
  | server (now : ℕ) (draws : ℕ → UInt32)

/-- Both parties and what is on the way between them.  The frames are tagged with the number of the
call they belong to. -/
structure Network where
  transport : Transport
  client : Phase
  toServer : List (ℕ × Bytes)
  toClient : List (ℕ × Bytes)
  server : ServerRun
  /-- The number of calls made so far; also the number of the current call. -/
  calls : ℕ

namespace Network

open RdowsConnection

/-- The phase after a turn of `recv_app_message`. -/
def heard (verb : Verb) (before : RdowsConnection) (consumed : Option (ℕ × RdowsMessage))
    (next : RdowsMessage → RdowsConnection →
      Talk RdowsConnection RdowsError Bytes RdowsMessage VerbValue) (tag : ℕ) :
    Outcome RdowsError (Option RdowsMessage) × RdowsConnection → Phase
  | (.ok none, conn) => .inCall verb before consumed (.receive conn next)
  | (.ok (some m), conn) => .inCall verb before (some (tag, m)) (next m conn)
  | (.err e, conn) => .inCall verb before consumed (.done (.err e) conn)
  | (.panic p, conn) => .inCall verb before consumed (.done (.panic p) conn)

/-- One step of the client.  It waits while there is nothing to read and the server is there.  A
frame that is too large stays where it is, and every read from then on fails. -/
def clientStep (net : Network) : Event × Network :=
  match net.client with
  | .idle _ | .crashed => (.quiet, net)
  | .inCall verb before consumed (.send frame next) =>
      (.quiet, { net with
        client := .inCall verb before consumed next
        toServer := net.toServer ++ [(net.calls, frame)] })
  | .inCall verb before consumed (.receive conn next) =>
      match net.toClient with
      | (tag, data) :: rest =>
          if net.transport.fits data then
            (.quiet, { net with
              client := heard verb before consumed next tag ((recvTurn (some (.ok data))).run conn)
              toClient := rest })
          else (.quiet, { net with
            client := heard verb before consumed next net.calls
              ((recvTurn (net.transport.ending net.calls)).run conn) })
      | [] =>
          if net.server.running then (.quiet, net)
          else (.quiet, { net with
            client := heard verb before consumed next net.calls
              ((recvTurn (net.transport.ending net.calls)).run conn) })
  | .inCall verb before consumed (.done result conn) =>
      match result with
      | .panic _ => (.quiet, { net with client := .crashed })
      | .ok _ | .err _ =>
          (.returned { call := net.calls, verb, before, result, after := conn, consumed },
            { net with client := .idle conn })

/-- The server handles the next frame, or the error that its stream yields in place of the frame. -/
def serverStep (net : Network) (now : ℕ) (draws : ℕ → UInt32) : Event × Network :=
  match net.toServer with
  | [] => (.quiet, net)
  | (tag, frame) :: rest =>
      if net.server.running then
        let out := net.server.step (.reliable now draws, net.transport.deliver frame)
        (.handled { call := tag, before := net.server.session, replies := out.1.replies
                    after := out.2.session },
          { net with
            toServer := rest
            toClient := net.toClient ++ out.1.replies.map fun m => (tag, m.encode)
            server := out.2 })
      else (.quiet, net)

/-- The network after the server has handled the frame of a call. -/
def served (net : Network) (now : ℕ) (draws : ℕ → UInt32) (tag : ℕ) (frame : Bytes)
    (rest : List (ℕ × Bytes)) : Network :=
  let out := net.server.step (.reliable now draws, net.transport.deliver frame)
  { net with
    toServer := rest
    toClient := net.toClient ++ out.1.replies.map fun m => (tag, m.encode)
    server := out.2 }

/-- One move.  A call is only started while no other is under way, since the methods of the
connection take it by `&mut`. -/
def step (net : Network) : Move → Event × Network
  | .call verb =>
      match net.client with
      | .idle conn =>
          (.quiet, { net with
            client := .inCall verb conn none (verb.start.start conn)
            calls := net.calls + 1 })
      | .inCall .. | .crashed => (.quiet, net)
  | .client => net.clientStep
  | .server now draws => net.serverStep now draws

/-- What `connect` makes of the server's replies to its CONNECT. -/
def handshake (sessionId : UInt32) (cqCapacity : ℕ) :
    List RdowsMessage → Outcome RdowsError RdowsConnection
  | [] => .err .sessionClosed
  | reply :: _ => do connected sessionId cqCapacity (← RdowsMessage.decode reply.encode)

/-- The state after `connect`, against a fresh session of the server.  Both frames of the handshake
are small. -/
def start (transport : Transport) (config : ServerConfig) (now : ℕ) (draws : ℕ → UInt32)
    (sessionId : UInt32) (cqCapacity : ℕ) : Network :=
  let out := (ServerRun.new config now).step
    (.reliable now draws, transport.deliver (connectMessage sessionId).encode)
  { transport
    client := match handshake sessionId cqCapacity out.1.replies with
      | .ok conn => .idle conn
      | .err _ | .panic _ => .crashed
    toServer := []
    toClient := []
    server := out.2
    calls := 0 }

/-! ### The steps one by one -/

section Steps

variable {net : Network} {verb : Verb} {before conn : RdowsConnection}
  {consumed : Option (ℕ × RdowsMessage)}

theorem clientStep_idle (phase : net.client = .idle conn) : net.clientStep = (.quiet, net) := by
  rw [clientStep, phase]

theorem clientStep_crashed (phase : net.client = .crashed) : net.clientStep = (.quiet, net) := by
  rw [clientStep, phase]

theorem clientStep_send {frame : Bytes}
    {next : Talk RdowsConnection RdowsError Bytes RdowsMessage VerbValue}
    (phase : net.client = .inCall verb before consumed (.send frame next)) :
    net.clientStep = (.quiet, { net with
      client := .inCall verb before consumed next
      toServer := net.toServer ++ [(net.calls, frame)] }) := by
  rw [clientStep, phase]

theorem clientStep_return {result : Outcome RdowsError VerbValue}
    (phase : net.client = .inCall verb before consumed (.done result conn))
    (returns : ¬ result.IsPanic) :
    net.clientStep = (.returned
      { call := net.calls, verb, before, result, after := conn, consumed },
      { net with client := .idle conn }) := by
  rw [clientStep, phase]
  rcases result with value | e | p
  · rfl
  · rfl
  · exact absurd trivial returns

theorem clientStep_panic {p : Panic}
    (phase : net.client = .inCall verb before consumed (.done (.panic p) conn)) :
    net.clientStep = (.quiet, { net with client := .crashed }) := by
  rw [clientStep, phase]

variable {next : RdowsMessage → RdowsConnection →
  Talk RdowsConnection RdowsError Bytes RdowsMessage VerbValue}

theorem clientStep_read {tag : ℕ} {data : Bytes} {rest : List (ℕ × Bytes)}
    (phase : net.client = .inCall verb before consumed (.receive conn next))
    (front : net.toClient = (tag, data) :: rest) (within : net.transport.fits data = true) :
    net.clientStep = (.quiet, { net with
      client := heard verb before consumed next tag ((recvTurn (some (.ok data))).run conn)
      toClient := rest }) := by
  rw [clientStep, phase]
  dsimp only
  rw [front]
  exact if_pos within

theorem clientStep_wait
    (phase : net.client = .inCall verb before consumed (.receive conn next))
    (empty : net.toClient = []) (running : net.server.running = true) :
    net.clientStep = (.quiet, net) := by
  rw [clientStep, phase]
  dsimp only
  rw [empty]
  exact if_pos running

/-- No frame can be read any more: the server is gone and has left nothing, or the next frame is
above the limit of the transport.  Once this is so it stays so. -/
def Stuck (net : Network) : Prop :=
  (net.toClient = [] ∧ net.server.running = false) ∨
    ∃ u rest, net.toClient = u :: rest ∧ net.transport.fits u.2 = false

/-- A call that waits for a frame that cannot be read fails. -/
theorem clientStep_lost
    (phase : net.client = .inCall verb before consumed (.receive conn next)) (stuck : net.Stuck) :
    net.clientStep = (.quiet, { net with
      client := .inCall verb before consumed
        (.done (.err (net.transport.lost net.calls)) conn) }) := by
  have fails : heard verb before consumed next net.calls
      ((recvTurn (net.transport.ending net.calls)).run conn) = .inCall verb before consumed
        (.done (.err (net.transport.lost net.calls)) conn) := by
    rw [Transport.run_recvTurn_ending]
    rfl
  rw [clientStep, phase, ← fails]
  dsimp only
  rcases stuck with ⟨empty, gone⟩ | ⟨u, rest, front, beyond⟩
  · rw [empty]
    exact if_neg (Bool.eq_false_iff.mp gone)
  · rw [front]
    exact if_neg (Bool.eq_false_iff.mp beyond)

/-- A read waits, takes a frame, or fails. -/
theorem read_cases (net : Network) :
    (net.toClient = [] ∧ net.server.running = true) ∨
    (∃ tag data rest, net.toClient = (tag, data) :: rest ∧ net.transport.fits data = true) ∨
    net.Stuck := by
  rcases front : net.toClient with _ | ⟨⟨tag, data⟩, rest⟩
  · rcases running : net.server.running with _ | _
    · exact .inr (.inr (.inl ⟨front, running⟩))
    · exact .inl ⟨rfl, rfl⟩
  · rcases within : net.transport.fits data with _ | _
    · exact .inr (.inr (.inr ⟨_, rest, front, within⟩))
    · exact .inr (.inl ⟨tag, data, rest, rfl, within⟩)

variable {tag : ℕ} {frame : Bytes} {rest : List (ℕ × Bytes)}

theorem serverStep_serve (now : ℕ) (draws : ℕ → UInt32)
    (front : net.toServer = (tag, frame) :: rest) (running : net.server.running = true) :
    let out := net.server.step (.reliable now draws, net.transport.deliver frame)
    net.serverStep now draws = (.handled
      { call := tag, before := net.server.session, replies := out.1.replies
        after := out.2.session },
      net.served now draws tag frame rest) := by
  rw [serverStep, front]
  exact if_pos running

/-- The server has nothing to do, or is gone. -/
theorem serverStep_rest (now : ℕ) (draws : ℕ → UInt32)
    (nothing : net.toServer = [] ∨ net.server.running = false) :
    net.serverStep now draws = (.quiet, net) := by
  rcases front : net.toServer with _ | ⟨⟨tag, frame⟩, rest⟩
  · rw [serverStep, front]
  · rcases nothing with empty | gone
    · cases front.symm.trans empty
    · rw [serverStep, front]
      exact if_neg (Bool.eq_false_iff.mp gone)

end Steps

/-! ### The condition on the frames the server handles -/

/-- A WRITE names a live R_Key with the right to write.  Frames of other kinds, and frames that do
not decode, are not concerned. -/
def writesAllowed (r : ServerRun) (frame : Bytes) : Bool :=
  match RdowsMessage.decode frame with
  | .ok (.write _ payload) =>
      decide (r.session.memoryStore.validateRkey payload.rkey .remoteWrite).IsOk
  | _ => true

/-- The replies reach the client as they are: their payloads have a length that fits its 32-bit
field, and their frames are within the limit of the transport.  Only a READ_RESP can fail to. -/
def carries (t : Transport) (replies : List RdowsMessage) : Bool :=
  replies.all fun m => decide (m.encodePayload.length < 2 ^ 32) && t.fits m.encode

/-- **The frames under which requests and answers agree.**  The frame is no larger than negotiated,
a WRITE is allowed, and what the server replies is carried; or the frame is not delivered at all,
which ends the session. -/
def admits (t : Transport) (r : ServerRun) (env : ℕ × (ℕ → UInt32)) (frame : Bytes) : Bool :=
  !t.fits frame || (decide (frame.length ≤ headerSize + r.session.maxMsgSize.toNat) &&
    (writesAllowed r frame &&
      carries t (r.step (.reliable env.1 env.2, .binary frame)).1.replies))

/-- The frame that the server handles in this move is admitted. -/
def admitted (net : Network) : Move → Bool
  | .server now draws =>
      match net.toServer with
      | (_, frame) :: _ =>
          !net.server.running || admits net.transport net.server (now, draws) frame
      | [] => true
  | .call _ | .client => true

theorem admits_of_admitted {net : Network} {now : ℕ} {draws : ℕ → UInt32} {tag : ℕ} {frame : Bytes}
    {rest : List (ℕ × Bytes)} (admitted : net.admitted (.server now draws) = true)
    (front : net.toServer = (tag, frame) :: rest) (running : net.server.running = true) :
    admits net.transport net.server (now, draws) frame = true := by
  rw [Network.admitted, front, running] at admitted
  exact admitted

/-! ### Lossless channels

The conditions of a run over the transport that the parties really use: its limit is not above what
they negotiate, so that no frame the server gets to see is too large. -/

/-- A WRITE that the server handles in this move names a live R_Key with the right to write. -/
def writesLive (net : Network) : Move → Bool
  | .server _ _ =>
      match net.toServer with
      | (_, frame) :: _ =>
          !net.server.running || !net.transport.fits frame || writesAllowed net.server frame
      | [] => true
  | .call _ | .client => true

/-- What the server sends in this move is within the limit of the transport, so that the channel to
the client loses nothing.  Only the answer to an `rdma_read` can be above it. -/
def lossless (net : Network) (move : Move) : Bool :=
  match (net.step move).1 with
  | .handled record => record.replies.all fun m => net.transport.fits m.encode
  | .quiet | .returned _ => true

end Network

/-! ### What a call may report -/

/-- **A call that succeeded.**  What it returned and left in the connection is what the server's
store did for exactly this call: the connection went from `c` to `c'` and the store from `before`
to `after`. -/
inductive Verb.Applied (c c' : RdowsConnection) (before after : MemoryStore) :
    Verb → VerbValue → Prop
  | regMr (accessFlags : AccessFlags) (regionLen : UInt64) (draws : ℕ → UInt32)
      (handle : MemoryRegionHandle)
      (registered : (MemoryStore.register draws c.pd accessFlags regionLen).run before
        = (.ok (handle.lkey, handle.rkey), after)) :
      Applied c c' before after (.regMr accessFlags regionLen) (.handle handle)
  | deregMr (lkey : LKey)
      (deregistered : (MemoryStore.deregister c.pd lkey).run before = (.ok (), after)) :
      Applied c c' before after (.deregMr lkey) .unit
  | postSend (wrid : UInt64) (sgList : List ScatterGatherEntry) (untouched : after = before) :
      Applied c c' before after (.postSend wrid sgList) .unit
  | rdmaWrite (wrid : UInt64) (rkey : RKey) (remoteVa : UInt64)
      (sgList : List ScatterGatherEntry) (data : Bytes)
      (gathered : c.gatherSgData sgList = .ok data)
      (written : (MemoryStore.writeRegion rkey remoteVa data).run before = (.ok (), after)) :
      Applied c c' before after (.rdmaWrite wrid rkey remoteVa sgList) .unit
  | rdmaRead (wrid : UInt64) (rkey : RKey) (remoteVa readLen : UInt64) (localLkey : LKey)
      (localVa : UInt64) (data : Bytes)
      (read : before.readRegion rkey remoteVa readLen = .ok data) (untouched : after = before)
      (copied : c'.readLocalMr localLkey localVa.toNat data.length = .ok data) :
      Applied c c' before after (.rdmaRead wrid rkey remoteVa readLen localLkey localVa) .unit
  | atomicCas (wrid : UInt64) (rkey : RKey) (remoteVa compare swap original : UInt64)
      (swapped : (MemoryStore.atomicOp rkey remoteVa atomicTypeCas compare swap).run before
        = (.ok original, after)) :
      Applied c c' before after (.atomicCas wrid rkey remoteVa compare swap) (.original original)
  | atomicFaa (wrid : UInt64) (rkey : RKey) (remoteVa addend original : UInt64)
      (added : (MemoryStore.atomicOp rkey remoteVa atomicTypeFaa addend 0).run before
        = (.ok original, after)) :
      Applied c c' before after (.atomicFaa wrid rkey remoteVa addend) (.original original)

/-- **A call that got its own answer.**  The message it consumed was sent for it, while one of
its own frames was handled; and if it succeeded, handling one of its own frames did what it
reports. -/
structure Returned.Answered (events : List Event) (call : Returned) : Prop where
  own : ∀ tag m, call.consumed = some (tag, m) → tag = call.call ∧
    ∃ frame, Event.handled frame ∈ events ∧ frame.call = call.call ∧
      ∃ reply ∈ frame.replies, m = reply.canonical
  applied : ∀ value, call.verb.isRemote = true → call.result = .ok value →
    ∃ frame, Event.handled frame ∈ events ∧ frame.call = call.call ∧
      call.verb.Applied call.before call.after frame.before.memoryStore
        frame.after.memoryStore value

end Rdows
