import Rdows.Client.LocalMemory
import Rdows.Core.DecodeSafety
import Rdows.Network.Moves
import Rdows.Server.Frames

/-!
# What goes over the wire

Two properties of the frames themselves, whatever the two parties do with them.

## The numbers that the client checks

What the server sends is numbered without a gap, and over a lossless channel the client's
`validate_remote_seq` never fails (`replies_gap_free`).  No condition on the frames of the client is
needed: whatever the server refuses, it numbers its refusal.  So `ErrSeqGap` on the client's side is
always the fault of what is between the two, never of the server.  The invariant `Streamed` is that
what is unread is numbered from the number the client expects to the one the server uses next; it
survives errors of calls, because a call that fails after reading has counted what it read.

## Sizes

The negotiated size is checked on receipt only.  Both sides stay within it as long as nobody asks
for more than it in one message, and `frames_within_agreed` says exactly when that is; a READ_REQ
and a scatter/gather list can (`frames_beyond_agreed`).  The condition is on what is asked, in terms
of the sizes that an answer and a request would have (`replySize`, `Verb.sizes`), because a sender
does not look at the size itself.

The two directions differ in what depends on the peer: the size of a reply is decided by the
request, so a client can make a server exceed the size that they agreed on.
-/

namespace Rdows

open Rust

/-! ### The numbers that the client checks -/

namespace Network

open RdowsConnection

/-- The channel to the client holds messages that can be read, numbered from the number that the
connection expects to the one that the server uses next. -/
def Streamed (toClient : List (ℕ × Bytes)) (nextSeq : UInt32) (conn : RdowsConnection) : Prop :=
  ∃ unread : List (ℕ × RdowsMessage), toClient = unread.map (fun u => (u.1, u.2.encode)) ∧
    (∀ u ∈ unread, u.2.Readable) ∧
    ∃ expected, conn.expectedRemoteSeq = some expected ∧
      Numbered expected (unread.map Prod.snd) nextSeq

variable {toClient : List (ℕ × Bytes)} {nextSeq : UInt32} {conn conn' : RdowsConnection}

/-- Only the expected number matters; the rest of the connection may have changed. -/
theorem Streamed.transfer (streamed : Streamed toClient nextSeq conn)
    (same : conn'.expectedRemoteSeq = conn.expectedRemoteSeq) :
    Streamed toClient nextSeq conn' := by
  obtain ⟨unread, channel, readable, expected, expects, numbered⟩ := streamed
  exact ⟨unread, channel, readable, expected, same.trans expects, numbered⟩

/-- The replies of the server follow what is unread. -/
theorem Streamed.served {server : ServerRun}
    (streamed : Streamed toClient server.session.nextSeq conn) (now : ℕ) (draws : ℕ → UInt32)
    (tag : ℕ) (message : WsMessage) :
    Streamed (toClient ++ (server.step (.reliable now draws, message)).1.replies.map
        fun m => (tag, m.encode))
      (server.step (.reliable now draws, message)).2.session.nextSeq conn := by
  obtain ⟨unread, channel, readable, expected, expects, numbered⟩ := streamed
  refine ⟨unread ++ (server.step (.reliable now draws, message)).1.replies.map (tag, ·),
    ?_, ?_, expected, expects, ?_⟩
  · rw [channel, List.map_append, List.map_map]
    rfl
  · intro u mem
    rcases List.mem_append.mp mem with old | new
    · exact readable u old
    · obtain ⟨m, sent, rfl⟩ := List.mem_map.mp new
      exact ServerRun.readable_reply sent
  · rw [List.map_append, List.map_map]
    refine numbered.append ?_
    rw [show Prod.snd ∘ (fun m : RdowsMessage => (tag, m)) = id from rfl, List.map_id]
    exact server.numbered_step now draws message

/-- The next frame is decoded to a message with the number that the connection expects, or decoding
panics; and what is behind it is numbered on. -/
theorem Streamed.front {tag : ℕ} {data : Bytes} {rest : List (ℕ × Bytes)}
    (streamed : Streamed ((tag, data) :: rest) nextSeq conn) :
    (∃ m, RdowsMessage.decode data = .ok m ∧
      conn.expectedRemoteSeq = some m.header.sequence ∧
      Streamed rest nextSeq (counted conn m)) ∨
    ∃ p, RdowsMessage.decode data = .panic p := by
  obtain ⟨unread, channel, readable, expected, expects, numbered⟩ := streamed
  rcases unread with _ | ⟨u, unread⟩
  · cases channel
  obtain ⟨front, behind⟩ := List.cons.inj channel
  cases front
  rcases readable u List.mem_cons_self with ⟨m, decoded, header⟩ | panics
  · have sequence : m.header.sequence = expected := by
      rw [header]
      exact numbered.1
    refine .inl ⟨m, decoded, by rw [expects, sequence], unread, behind,
      fun u mem => readable u (List.mem_cons_of_mem _ mem), expected + 1, ?_, numbered.2⟩
    rw [counted, sequence]
  · exact .inr panics

/-- Reading a frame: the call goes on or ends with what is unread still in order, or it panics. -/
theorem Streamed.read {verb : Verb} {before : RdowsConnection} {messages : List RdowsMessage}
    {finish : RdowsMessage → Local VerbValue} {tag : ℕ} {data : Bytes} {rest : List (ℕ × Bytes)}
    (streamed : Streamed ((tag, data) :: rest) nextSeq conn)
    (requests : verb.Requests before messages finish)
    (held : (answered verb before finish tag ((recvTurn (some (.ok data))).run conn)).connection
      = some conn') : Streamed rest nextSeq conn' := by
  rcases streamed.front with ⟨m, decoded, expects, later⟩ | ⟨p, panics⟩
  · rw [run_recvTurn_decoded decoded expects] at held
    rcases takeIn_cases m (counted conn m) with ⟨-, run⟩ | ⟨-, ⟨credits, run⟩ | ⟨p, run⟩⟩ <;>
      rw [run] at held
    · have ended := Talk.receiver_done held
      rw [← ended]
      exact later.transfer (requests.finish_sameLink m (counted conn m)).2
    · cases held
      exact later.transfer rfl
    · cases held
  · have run : (recvTurn (some (.ok data))).run conn = (.panic p, conn) := by
      rw [recvTurn, panics]
      rfl
    rw [run] at held
    cases held

/-- **In every run, what the client has not read is numbered as it expects**, as long as it has not
panicked. -/
theorem streamed_exec (transport : Transport) (config : ServerConfig) (now : ℕ)
    (draws : ℕ → UInt32) (sessionId : UInt32) (cqCapacity : ℕ) (moves : List Move) :
    let net := Machine.exec step (start transport config now draws sessionId cqCapacity) moves
    ∀ conn, net.client.connection = some conn →
      Streamed net.toClient net.server.session.nextSeq conn := by
  refine moves_induction (C := fun _ _ => True)
    (P := fun _ net => ∀ conn, net.client.connection = some conn →
      Streamed net.toClient net.server.session.nextSeq conn)
    (shaped_start transport config now draws sessionId cqCapacity) ?_ ?_
    (Machine.always_of_forall (fun _ _ => trivial) _ moves)
  · rw [start_eq]
    intro conn held
    cases held
    exact ⟨[], rfl, by simp, 1, rfl, rfl⟩
  · intro seen net move event net' _ streamed moves conn held
    cases moves with
    | stays => exact streamed conn held
    | ends phase started same =>
        obtain rfl := Talk.receiver_done held
        exact (streamed _ (by rw [phase]; rfl)).transfer same.2
    -- A new call changes the connection's own numbers only, not the one it expects.
    | asks phase started requests same =>
        obtain rfl : _ = conn := Option.some.inj ((Talk.receiver_request _ _ _).symm.trans held)
        exact (streamed _ (by rw [phase]; rfl)).transfer same
    | sends phase =>
        refine streamed conn ?_
        rw [phase]
        exact held
    | reads phase requests front =>
        have before := streamed _ (by rw [phase]; rfl)
        rw [front] at before
        exact before.read requests held
    | loses phase stuck =>
        cases held
        exact streamed _ (by rw [phase]; rfl)
    | returns phase returned =>
        cases held
        refine streamed _ ?_
        rw [phase]
        exact Talk.receiver_done_of_not_isPanic _ returned
    | crashes => cases held
    | serves later draws front running => exact (streamed conn held).served later draws _ _

/-- **The reply stream has no gap.**  For every run of a session over every transport, the `i`-th
frame it emits carries the number `i` modulo `2 ^ 32`, and from the CONNECT_ACK on every frame
carries the session id of the CONNECT.  In every run of the network, whatever the calls and the
interleaving, a waiting client accepts the number of the next message. -/
theorem replies_gap_free (config : ServerConfig) (now : ℕ) :
    (∀ (inputs : List (Env × WsMessage)) i m,
      ((ServerRun.new config now).emitted inputs)[i]? = some m →
        m.header.sequence = UInt32.ofNat i) ∧
    (∀ (earlier later : List (Env × WsMessage)) (input : Env × WsMessage) header payload,
      input.2.carried = some (.connect header payload) →
      connectAcks (((ServerRun.new config now).after earlier).step input).1.replies ≠ 0 →
      ∀ m ∈ ((ServerRun.new config now).after earlier).emitted (input :: later),
        m.header.sessionId = header.sessionId) ∧
    ∀ (transport : Transport) (draws : ℕ → UInt32) (sessionId : UInt32) (cqCapacity : ℕ)
      (moves : List Move),
      let net := Machine.exec step (start transport config now draws sessionId cqCapacity) moves
      ∀ verb before consumed conn next tag data rest m,
        net.client = .inCall verb before consumed (.receive conn next) →
        net.toClient = (tag, data) :: rest → RdowsMessage.decode data = .ok m →
        ((validateRemoteSeq m).run conn).1 = .ok () := by
  refine ⟨?_, ?_, ?_⟩
  · intro inputs i m sent
    obtain ⟨next, numbered⟩ := (ServerRun.new config now).numbered_emitted inputs
    rw [numbered.sequence_of_getElem? sent]
    exact UInt32.zero_add _
  · intro earlier later input header payload carried acked
    exact ServerRun.sessionId_emitted config now carried acked later
  · intro transport draws sessionId cqCapacity moves net verb before consumed conn next tag data
      rest m phase front decoded
    have streamed := streamed_exec transport config now draws sessionId cqCapacity moves conn
      (by show net.client.connection = _; rw [phase]; rfl)
    rw [show (Machine.exec step _ moves).toClient = (tag, data) :: rest from front] at streamed
    -- the front of the channel has the expected number, or is a frame whose decoding panics
    rcases streamed.front with ⟨m', decodes, expects, -⟩ | ⟨p, panics⟩
    · obtain rfl : m = m' := Outcome.ok.inj (decoded.symm.trans decodes)
      rw [validateRemoteSeq, Method.run_bind_of_ok (Method.run_get _), expects]
      dsimp only
      rw [if_neg (not_not.mpr rfl)]
      rfl
    · rw [decoded] at panics
      cases panics

end Network

/-! ### Sizes -/

/-- The frame is a header and a payload of at most `limit` bytes, and the header declares the
payload's true size. -/
def FitsWithin (limit : UInt32) (frame : Bytes) : Prop :=
  frame.length ≤ headerSize + limit.toNat ∧
    headerSize + declaredLength frame = frame.length

instance (limit : UInt32) (frame : Bytes) : Decidable (FitsWithin limit frame) :=
  inferInstanceAs (Decidable (_ ∧ _))

/-- The header of a frame declares the size of the payload, modulo `2 ^ 32`. -/
theorem RdowsMessage.declaredLength_encode {m : RdowsMessage}
    (version : m.header.version = rdowsVersion) :
    declaredLength m.encode = m.encodePayload.length % 2 ^ 32 := by
  have onWire : m.wireHeader.version = rdowsVersion := version
  have decodes := RdowsHeader.run_decode_encode m.wireHeader onWire m.encodePayload
  rcases run_decode_header (m.wireHeader.encode ++ m.encodePayload) with
    ⟨e, left, fails, -⟩ | ⟨h, run, -, -, -, declared⟩
  · rw [decodes] at fails
    cases fails
  · rw [decodes] at run
    obtain ⟨same, -⟩ := Prod.mk.inj run
    rw [← Outcome.ok.inj same] at declared
    refine declared.symm.trans ?_
    exact UInt32.toNat_ofNat'

/-- A frame of the protocol's version fits exactly if its payload does: the declared size is then
the true one. -/
theorem fitsWithin_encode_iff {m : RdowsMessage} {limit : UInt32}
    (version : m.header.version = rdowsVersion) :
    FitsWithin limit m.encode ↔ m.encodePayload.length ≤ limit.toNat := by
  rw [FitsWithin, RdowsMessage.declaredLength_encode version, RdowsMessage.length_encode]
  constructor
  · rintro ⟨short, -⟩
    exact Nat.le_of_add_le_add_left short
  · intro size
    have small : m.encodePayload.length < 2 ^ 32 := Nat.lt_of_le_of_lt size limit.toNat_lt
    rw [Nat.mod_eq_of_lt small]
    exact ⟨Nat.add_le_add_left size _, rfl⟩

namespace ServerRun

variable {r : ServerRun} {input : Env × WsMessage}

/-- **A reply fits exactly if its size does**, where the size is read off the table by the message
that was handled and the reply. -/
theorem fitsWithin_reply_iff {m : RdowsMessage} (sent : m ∈ (r.step input).1.replies)
    (limit : UInt32) :
    FitsWithin limit m.encode ↔ replySize input.2.carried m ≤ limit.toNat := by
  rw [fitsWithin_encode_iff (version_reply sent), (size_reply sent).1]

/-- If there is room for the largest ERROR, then only a READ_REQ that is granted can ask for too
much. -/
theorem fitsWithin_replies_iff {limit : UInt32} (room : smallPayload ≤ limit.toNat) :
    (∀ m ∈ (r.step input).1.replies, FitsWithin limit m.encode) ↔
      ∀ header payload, input.2.carried = some (.readReq header payload) →
        (∃ h p, RdowsMessage.readResp h p ∈ (r.step input).1.replies) →
        8 + payload.readLen.toNat ≤ limit.toNat := by
  constructor
  · rintro fit header payload asked ⟨h, p, sent⟩
    have size := (fitsWithin_reply_iff sent limit).mp (fit _ sent)
    rw [asked] at size
    exact size
  · intro reads m sent
    rw [fitsWithin_encode_iff (version_reply sent)]
    rcases (size_reply sent).2 with small | ⟨header, payload, h, data, asked, rfl, length⟩
    · exact small.trans room
    · show (ReadRespPayload.encode _).length ≤ _
      rw [ReadRespPayload.length_encode, length]
      exact reads header payload asked ⟨h, _, sent⟩

end ServerRun

/-- The payload of a SEND. -/
theorem RdowsMessage.length_encodePayload_send (h : RdowsHeader)
    (sgList : List ScatterGatherEntry) :
    (send h { sgList }).encodePayload.length = 4 + sgList.length * sgEntrySize :=
  SendPayload.length_encode { sgList }

namespace Verb

open RdowsConnection

/-- The sizes of the payloads that a call sends, if it sends anything.  All are fixed but those of
SEND and WRITE: the encoded list, and the data that is gathered. -/
def sizes (conn : RdowsConnection) : Verb → List ℕ
  | regMr _ _ => [16]
  | deregMr _ => [8]
  | postSend _ sgList => [4 + sgList.length * sgEntrySize, gatheredLength conn sgList]
  | rdmaWrite _ _ _ sgList =>
      [WritePayload.writeHeaderSize + sgList.length * sgEntrySize, gatheredLength conn sgList]
  | rdmaRead .. => [40]
  | atomicCas .. | atomicFaa .. => [32]
  | _ => []
where
  gatheredLength (conn : RdowsConnection) (sgList : List ScatterGatherEntry) : ℕ :=
    match conn.gatherSgData sgList with
    | .ok data => data.length
    | .err _ | .panic _ => 0

theorem Requests.sizes_eq {verb : Verb} {conn : RdowsConnection} {messages : List RdowsMessage}
    {finish : RdowsMessage → Local VerbValue} (requests : verb.Requests conn messages finish) :
    messages.map (fun m => m.encodePayload.length) = verb.sizes conn ∧
      ∀ m ∈ messages, m.header.version = rdowsVersion := by
  have single {m : RdowsMessage} {size : ℕ} (version : m.header.version = rdowsVersion)
      (length : m.encodePayload.length = size) :
      [m].map (fun m => m.encodePayload.length) = [size] ∧
        ∀ m' ∈ [m], m'.header.version = rdowsVersion :=
    ⟨by rw [List.map_singleton, length], List.forall_mem_singleton.mpr version⟩
  have pair {front back : RdowsMessage} {sgList : List ScatterGatherEntry} {data : Bytes}
      {size : ℕ} (gathered : conn.gatherSgData sgList = .ok data)
      (versions : front.header.version = rdowsVersion ∧ back.header.version = rdowsVersion)
      (lengths : front.encodePayload.length = size ∧ back.encodePayload.length = data.length) :
      [front, back].map (fun m => m.encodePayload.length)
          = [size, sizes.gatheredLength conn sgList] ∧
        ∀ m ∈ [front, back], m.header.version = rdowsVersion := by
    rw [sizes.gatheredLength, gathered, List.map_cons, List.map_singleton, lengths.1, lengths.2]
    exact ⟨rfl, List.forall_mem_cons.mpr ⟨versions.1, List.forall_mem_singleton.mpr versions.2⟩⟩
  -- a request is one frame of a fixed payload, or an announcement and the gathered data
  cases requests with
  | regMr accessFlags regionLen => exact single rfl (MrRegPayload.length_encode _)
  | deregMr lkey => exact single rfl (MrDeregPayload.length_encode _)
  | postSend wrid sgList data gathered =>
      exact pair gathered ⟨rfl, rfl⟩ ⟨SendPayload.length_encode _, rfl⟩
  | rdmaWrite wrid rkey remoteVa sgList data gathered =>
      exact pair gathered ⟨rfl, rfl⟩ ⟨WritePayload.length_encode _, rfl⟩
  | rdmaRead wrid rkey remoteVa readLen localLkey localVa =>
      exact single rfl (ReadReqPayload.length_encode _)
  | atomicCas wrid rkey remoteVa compare swap =>
      exact single rfl (AtomicReqPayload.length_encode _)
  | atomicFaa wrid rkey remoteVa addend => exact single rfl (AtomicReqPayload.length_encode _)

/-- **The frames of a call fit exactly if their sizes do**, unless it sends nothing.  The sizes are
computed from the call and the local buffers that it gathers. -/
theorem fitsWithin_frames_iff (verb : Verb) (conn : RdowsConnection) (limit : UInt32) :
    (∀ frame ∈ (verb.start.start conn).frames, FitsWithin limit frame) ↔
      ((verb.start.start conn).frames ≠ [] → ∀ size ∈ verb.sizes conn, size ≤ limit.toNat) := by
  rcases verb.start_cases conn with ⟨result, conn', ended, -⟩ |
    ⟨messages, conn', finish, started, requests, -, -⟩
  · rw [ended]
    exact ⟨fun _ sends => absurd rfl sends, fun _ _ sent => by cases sent⟩
  · obtain ⟨sizes, version⟩ := requests.sizes_eq
    rw [started, Talk.frames_request, ← sizes, List.forall_mem_map, List.forall_mem_map]
    constructor
    · intro fit _ m mem
      exact (fitsWithin_encode_iff (version m mem)).mp (fit m mem)
    · intro size m mem
      refine (fitsWithin_encode_iff (version m mem)).mpr (size ?_ m mem)
      exact List.map_eq_nil_iff.not.mpr (List.ne_nil_of_mem mem)

end Verb

/-- A session that agreed on messages of 64 bytes, with a region of 100 bytes that may be read. -/
def agreedOn64 : List (Env × WsMessage) :=
  ServerRun.binaries [ServerRun.delivered (ServerRun.sampleConnect 64),
    ServerRun.delivered (.mrReg (.new .mrReg 7 1 0) ⟨⟨1⟩, .remoteRead, 100, none⟩)]

/-- The READ_REQ of so many bytes through an R_Key. -/
def readOf (rkey : RKey) (readLen : UInt64) : Env × WsMessage :=
  ((ServerRun.delivered (.readReq (.new .readReq 7 2 5) ⟨rkey, 0, readLen, ⟨1⟩, 0⟩)).1,
    .binary (RdowsMessage.readReq (.new .readReq 7 2 5) ⟨rkey, 0, readLen, ⟨1⟩, 0⟩).encode)

/-- A region is registered and read as a whole, by a client that proposed messages of 64 bytes. -/
def wholeRead : List (Env × WsMessage) :=
  ServerRun.binaries [ServerRun.delivered (ServerRun.sampleConnect 64),
    ServerRun.delivered (.mrReg (.new .mrReg 7 1 0) ⟨⟨1⟩, .remoteRead, 100, none⟩),
    ServerRun.delivered (.readReq (.new .readReq 7 2 5) ⟨⟨1⟩, 0, 100, ⟨1⟩, 0⟩)]

/-- A list of so many entries of length zero is encoded in more than 16 MiB, while the data that
goes with it is empty. -/
def longList : List ScatterGatherEntry := List.replicate 1048576 ⟨⟨1⟩, 0, 0⟩

theorem RdowsConnection.gatherSgData_longList {c : RdowsConnection} {mr : MemoryRegionHandle}
    (registered : c.localMrs.lookup 1 = some mr) : c.gatherSgData longList = .ok [] :=
  gatherSgData_replicate ⟨1⟩ registered _

theorem length_longList : longList.length = 1048576 := List.length_replicate

end Rdows
